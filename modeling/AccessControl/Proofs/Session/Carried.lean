/-
  AccessControl/Proofs/Session/Carried.lean
  =========================================
  **A session id travels in a cookie and comes back.**

  The reader of a cookie header cuts it at semicolons, trims each piece, cuts it at its first
  equals sign, trims both halves, and takes the quotes off the value of the first piece with
  the right name.  An id survives this if it has no semicolon and neither white space nor
  quotes at its ends (`SessionId.Fits`), and it does so whatever cookies stand around it.

  What makes this work is that an equals sign is no white space.  So trimming a whole piece
  trims the start of its name and the end of its value and nothing else
  (`Text.trimMatches_append_cons`), and the name of a foreign cookie is the same before and
  after.

  ## Main definitions

  * `SessionCookie.Plain`: the name of the cookie has no character of its own meaning;
  * `SessionCookie.carrying`: the piece with the name and the id;
  * `SessionCookie.Foreign`: a piece that is another cookie, or none;
  * `SessionId.Fits`: what a cookie can carry.

  ## Main statements

  * `SessionCookie.pieces_render`: the pieces of the header that sets the cookie;
  * `SessionCookie.extract_joined`: the id is found among other cookies.
-/
import AccessControl.Session.Cookie
import AccessControl.Settings.Check
import Mathlib.Data.List.DropRight

namespace AccessControl

/-! ## 1. White space around a text -/

namespace Text

section Trimming

variable {p : Char → Bool} {x : Char} {lead cs trail front back : List Char}

theorem dropWhile_append_cons (hx : p x = false) (front back : List Char) :
    (front ++ x :: back).dropWhile p = front.dropWhile p ++ x :: back := by
  induction front with
  | nil => simp [hx]
  | cons y ys ih =>
    by_cases hy : p y = true
    · simp [hy, ih]
    · simp [hy]

theorem dropWhile_of_head? (h : ∀ y ∈ cs.head?, p y = false) : cs.dropWhile p = cs := by
  cases cs with
  | nil => rfl
  | cons y ys => simp [h y (by simp)]

/-- A character outside the class stops the trimming from both sides. -/
theorem trimMatches_append_cons (hx : p x = false) (front back : List Char) :
    trimMatches p (front ++ x :: back) =
      front.dropWhile p ++ x :: (back.reverse.dropWhile p).reverse := by
  simp only [trimMatches, dropWhile_append_cons hx, List.reverse_append, List.reverse_cons,
    List.append_assoc, List.singleton_append, List.reverse_reverse]

theorem trimMatches_dropWhile (cs : List Char) :
    trimMatches p (cs.dropWhile p) = trimMatches p cs := by
  rw [trimMatches, trimMatches, List.dropWhile_idempotent]

theorem trimMatches_surrounded (hl : ∀ y ∈ lead, p y = true) (ht : ∀ y ∈ trail, p y = true)
    (cs : List Char) : trimMatches p (lead ++ cs ++ trail) = trimMatches p cs := by
  have front : (lead ++ cs ++ trail).dropWhile p = (cs ++ trail).dropWhile p := by
    rw [List.append_assoc, List.dropWhile_append_of_pos hl]
  have back (ds : List Char) :
      (ds ++ trail).reverse.dropWhile p = ds.reverse.dropWhile p := by
    rw [List.reverse_append, List.dropWhile_append_of_pos]
    intro y hy
    exact ht y (List.mem_reverse.1 hy)
  rw [trimMatches, front, List.dropWhile_append]
  split
  · next empty =>
    -- nothing is left of the text, and nothing of what stands behind it
    have empty : cs.dropWhile p = [] := by simpa using empty
    rw [List.dropWhile_eq_nil_iff.2 ht, trimMatches, empty]
  · rw [back, trimMatches]

end Trimming

/-! ## 2. Pieces with separators between them -/

theorem joined_cons_cons (sep : Char) (p q : List Char) (ps : List (List Char)) :
    joined sep (p :: q :: ps) = p ++ sep :: joined sep (q :: ps) := rfl

theorem pieces_joined {sep : Char} {front : List (List Char)} {p : List Char}
    (hf : ∀ q ∈ front, sep ∉ q) (hp : sep ∉ p) (back : List (List Char)) :
    ∃ rest, pieces sep (joined sep (front ++ p :: back)) = front ++ p :: rest := by
  induction front with
  | nil =>
    cases back with
    | nil => exact ⟨[], pieces_eq_singleton hp⟩
    | cons q back =>
      rw [List.nil_append, joined_cons_cons, pieces_append_cons hp]
      exact ⟨_, rfl⟩
  | cons q front ih =>
    obtain ⟨rest, found⟩ := ih fun r hr => hf r (List.mem_cons_of_mem _ hr)
    refine ⟨rest, ?_⟩
    -- there is a piece behind this one, if only the last
    obtain ⟨r, more, split⟩ : ∃ r more, front ++ p :: back = r :: more :=
      List.exists_cons_of_ne_nil (by simp)
    rw [List.cons_append, split, joined_cons_cons, ← split,
      pieces_append_cons (hf q (List.mem_cons_self ..)), found, List.cons_append]

end Text

/-! ## 3. Cookies -/

/-- What a cookie can carry: an id that is not empty, has no semicolon, and has neither white
    space nor a quote at its ends. -/
structure SessionId.Fits (id : SessionId) : Prop where
  nonempty : id.value.toList ≠ []
  single : ';' ∉ id.value.toList
  first : ∀ x ∈ id.value.toList.head?, Text.isWhite x = false ∧ x ≠ '"'
  last : ∀ x ∈ id.value.toList.getLast?, Text.isWhite x = false ∧ x ≠ '"'

namespace SessionCookie

/-- The name of the cookie has no white space, and no character that separates cookies or their
    parts. -/
def Plain (c : SessionCookie) : Prop :=
  ∀ x ∈ c.name.toList, Text.isWhite x = false ∧ x ≠ ';' ∧ x ≠ '='

theorem plain_of_isCookieName {c : SessionCookie} (h : isCookieName c.name = true) : c.Plain := by
  intro x hx
  simp only [isCookieName, Bool.and_eq_true, List.all_eq_true, Bool.not_eq_true',
    Bool.or_eq_false_iff, beq_eq_false_iff_ne] at h
  obtain ⟨white, ⟨semicolon, equals⟩, -⟩ := h.2 x hx
  exact ⟨white, semicolon, equals⟩

/-- The piece of a header with the name of the cookie and the id. -/
def carrying (c : SessionCookie) (id : SessionId) : List Char :=
  c.name.toList ++ '=' :: id.value.toList

/-- A piece of a header without an equals sign, or with another name in front of the first. -/
def Foreign (c : SessionCookie) (piece : List Char) : Prop :=
  '=' ∉ piece ∨
    ∃ name value, piece = name ++ '=' :: value ∧ '=' ∉ name ∧ Text.trim name ≠ c.name.toList

variable {c : SessionCookie} {id : SessionId}

theorem pair?_append_cons {name : List Char} (hn : '=' ∉ name) (value : List Char) :
    pair? (name ++ '=' :: value) = some (Text.trimStart name, Text.trimEnd value) := by
  rw [pair?, Text.trim, Text.trimMatches_append_cons (by decide)]
  refine Text.cut_eq_some.2 ⟨rfl, ?_⟩
  intro h
  exact hn ((List.dropWhile_sublist _).mem h)

theorem pair?_eq_none {piece : List Char} (h : '=' ∉ piece) : pair? piece = none := by
  refine Text.cut_eq_none.2 ?_
  intro inside
  simp only [Text.trim, Text.trimMatches, List.mem_reverse] at inside
  have inside := (List.dropWhile_sublist _).mem inside
  rw [List.mem_reverse] at inside
  exact h ((List.dropWhile_sublist _).mem inside)

theorem Foreign.passed {piece : List Char} (h : c.Foreign piece) (rest : List (List Char)) :
    valueIn c.name.toList (piece :: rest) = valueIn c.name.toList rest := by
  apply valueIn_cons_of_ne
  intro n v pair
  rcases h with none | ⟨name, value, rfl, hn, other⟩
  · rw [pair?_eq_none none] at pair
    cases pair
  · rw [pair?_append_cons hn] at pair
    cases pair
    intro same
    apply other
    rw [← same]
    exact (Text.trimMatches_dropWhile name).symm

theorem valueIn_foreign {front : List (List Char)} (h : ∀ piece ∈ front, c.Foreign piece)
    (rest : List (List Char)) :
    valueIn c.name.toList (front ++ rest) = valueIn c.name.toList rest := by
  induction front with
  | nil => rfl
  | cons piece front ih =>
    rw [List.cons_append, (h piece (List.mem_cons_self ..)).passed]
    exact ih fun other hother => h other (List.mem_cons_of_mem _ hother)

theorem trim_eq_self {cs : List Char} (h : ∀ x ∈ cs, Text.isWhite x = false) :
    Text.trim cs = cs :=
  Text.trimMatches_eq_self (fun x hx => h x (List.mem_of_mem_head? hx))
    (fun x hx => h x (List.mem_of_getLast? hx))

theorem Plain.trim_name (plain : c.Plain) : Text.trim c.name.toList = c.name.toList :=
  trim_eq_self fun x hx => (plain x hx).1

theorem semicolon_notMem_carrying (plain : c.Plain) (fits : id.Fits) : ';' ∉ c.carrying id := by
  simp only [carrying, List.mem_append, List.mem_cons, not_or]
  refine ⟨?_, by decide, fits.single⟩
  intro h
  exact (plain _ h).2.1 rfl

theorem pair?_carrying (plain : c.Plain) (fits : id.Fits) {lead trail : List Char}
    (hl : ∀ x ∈ lead, Text.isWhite x = true) (ht : ∀ x ∈ trail, Text.isWhite x = true) :
    pair? (lead ++ c.carrying id ++ trail) = some (c.name.toList, id.value.toList) := by
  have apart : '=' ∉ c.name.toList := by
    intro h
    exact (plain _ h).2.2 rfl
  have name : Text.trimStart c.name.toList = c.name.toList := by
    apply Text.dropWhile_of_head?
    intro x hx
    exact (plain x (List.mem_of_mem_head? hx)).1
  have value : Text.trimEnd id.value.toList = id.value.toList := by
    rw [Text.trimEnd, Text.dropWhile_of_head?, List.reverse_reverse]
    intro x hx
    rw [List.head?_reverse] at hx
    exact (fits.last x hx).1
  have pair := pair?_append_cons apart id.value.toList
  rw [name, value] at pair
  rw [pair?, Text.trim, Text.trimMatches_surrounded hl ht]
  exact pair

theorem bareValue_of_fits (fits : id.Fits) : bareValue id.value.toList = id.value.toList := by
  have unquoted : Text.trimMatches (fun x => x == '"') id.value.toList = id.value.toList := by
    apply Text.trimMatches_eq_self
    · intro x hx
      simpa using (fits.first x hx).2
    · intro x hx
      simpa using (fits.last x hx).2
  have bare : Text.trim id.value.toList = id.value.toList :=
    Text.trimMatches_eq_self (fun x hx => (fits.first x hx).1) fun x hx => (fits.last x hx).1
  rw [bareValue, bare, unquoted]

/-- The id is found in a header, behind foreign pieces and with white space around it. -/
theorem extract_joined (plain : c.Plain) (fits : id.Fits) {front back : List (List Char)}
    {lead trail : List Char} (hf : ∀ piece ∈ front, ';' ∉ piece ∧ c.Foreign piece)
    (hl : ∀ x ∈ lead, Text.isWhite x = true) (ht : ∀ x ∈ trail, Text.isWhite x = true) :
    c.extract (some (String.ofList
      (Text.joined ';' (front ++ (lead ++ c.carrying id ++ trail) :: back)))) = some id := by
  have blank {x : Char} (hx : Text.isWhite x = true) : x ≠ ';' := by
    rintro rfl
    revert hx
    decide
  have one : ';' ∉ lead ++ c.carrying id ++ trail := by
    simp only [List.mem_append, not_or]
    refine ⟨⟨?_, semicolon_notMem_carrying plain fits⟩, ?_⟩
    · intro h
      exact blank (hl _ h) rfl
    · intro h
      exact blank (ht _ h) rfl
  obtain ⟨rest, pieces⟩ := Text.pieces_joined (fun piece hpiece => (hf piece hpiece).1) one back
  have found : valueIn c.name.toList (front ++ (lead ++ c.carrying id ++ trail) :: rest) =
      some id.value.toList := by
    rw [valueIn_foreign fun piece hpiece => (hf piece hpiece).2]
    exact valueIn_cons_of_eq rest (pair?_carrying plain fits hl ht) plain.trim_name
  rw [extract, Option.bind_some, String.toList_ofList, extractChars, pieces, found,
    Option.map_some, bareValue_of_fits fits, Option.filter_some, if_pos, Option.map_some,
    String.ofList_toList]
  simpa using fits.nonempty

theorem extract_first (plain : c.Plain) (fits : id.Fits) (back : List (List Char)) :
    c.extract (some (String.ofList (Text.joined ';' (c.carrying id :: back)))) = some id := by
  have nothing : ∀ piece ∈ ([] : List (List Char)), ';' ∉ piece ∧ c.Foreign piece := nofun
  have blank : ∀ x ∈ ([] : List Char), Text.isWhite x = true := nofun
  simpa using extract_joined plain fits nothing blank blank

theorem extract_carrying (plain : c.Plain) (fits : id.Fits) :
    c.extract (some (String.ofList (c.carrying id))) = some id :=
  extract_first plain fits []

/-- The header that sets the cookie has the name and the id in its first piece, and one piece for
    each attribute. -/
theorem pieces_render (plain : c.Plain) (fits : id.Fits) :
    Text.pieces ';' (c.render id).toList =
      c.carrying id :: (" Max-Age=".toList ++ Text.digits c.maxAgeSeconds.toNat) ::
        " HttpOnly".toList :: if c.secure then [" Secure".toList] else [] := by
  have seconds : ';' ∉ " Max-Age=".toList ++ Text.digits c.maxAgeSeconds.toNat := by
    intro h
    rcases List.mem_append.1 h with h | h
    · revert h
      decide
    · have := Text.isDigit_of_mem_digits h
      revert this
      decide
  have header : (c.render id).toList = c.carrying id ++ ';' ::
      (" Max-Age=".toList ++ Text.digits c.maxAgeSeconds.toNat ++ ';' ::
        (" HttpOnly".toList ++ if c.secure then "; Secure".toList else [])) := by
    have age : "; Max-Age=".toList = ';' :: " Max-Age=".toList := rfl
    have only : "; HttpOnly".toList = ';' :: " HttpOnly".toList := rfl
    rw [render, String.toList_ofList, renderChars, carrying, age, only]
    simp only [List.append_assoc, List.cons_append]
  rw [header, Text.pieces_append_cons (semicolon_notMem_carrying plain fits),
    Text.pieces_append_cons seconds]
  cases c.secure <;> rfl

end SessionCookie

end AccessControl
