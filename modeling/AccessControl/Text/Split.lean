/-
  AccessControl/Text/Split.lean
  =============================
  **Texts cut at a separator.**

  A cookie header is cut at semicolons, a session id and an image reference at
  colons, and a cookie pair at its first equals sign.  Cutting loses nothing but
  the separators, so a text is known from its pieces.

  ## Main definitions

  * `pieces sep cs`: the text cut at every separator; never empty;
  * `cut sep cs`: the text cut at its first separator, if there is one;
  * `joined sep ps`: pieces with the separator between them.

  ## Main statements

  * `joined_pieces`: the pieces and the separators make up the text;
  * `pieces_eq_singleton`: a text without the separator is its own only piece;
  * `pieces_append_cons`: the pieces of a text that is cut at a known place;
  * `length_pieces`, `forall_pieces`: how many there are, and what they hold;
  * `cut_eq_some`: what the first cut says about the text.
-/

namespace AccessControl.Text

/-! ## 1. Every separator -/

/-- The text cut at every separator.  A text without one is a single piece, and
    the empty text is a single empty piece. -/
def pieces (sep : Char) : List Char → List (List Char)
  | [] => [[]]
  | c :: cs =>
    if c = sep then [] :: pieces sep cs
    else match pieces sep cs with
      | [] => [[c]]
      | p :: ps => (c :: p) :: ps

/-- The pieces with the separator between each and the next. -/
def joined (sep : Char) : List (List Char) → List Char
  | [] => []
  | [p] => p
  | p :: q :: ps => p ++ sep :: joined sep (q :: ps)

theorem pieces_ne_nil (sep : Char) (cs : List Char) : pieces sep cs ≠ [] := by
  cases cs with
  | nil => simp [pieces]
  | cons c cs =>
    unfold pieces
    split
    · simp
    · split <;> simp

/-- The pieces of a text and the separators between them make up the text. -/
theorem joined_pieces (sep : Char) (cs : List Char) : joined sep (pieces sep cs) = cs := by
  induction cs with
  | nil => rfl
  | cons c cs ih =>
    unfold pieces
    rcases hp : pieces sep cs with _ | ⟨p, ps⟩
    · exact absurd hp (pieces_ne_nil sep cs)
    · rw [hp] at ih
      by_cases hc : c = sep
      · -- the text starts with the separator: the first piece is empty
        simp [hc, joined, ih]
      · -- the first character joins the first piece
        cases ps with
        | nil => simp [hc, joined, ← ih]
        | cons q qs => simp [hc, joined, ← ih]

/-- A text without the separator is its own only piece. -/
theorem pieces_eq_singleton {sep : Char} {cs : List Char} (h : sep ∉ cs) :
    pieces sep cs = [cs] := by
  induction cs with
  | nil => rfl
  | cons c cs ih =>
    have hc : c ≠ sep := fun e => h (by simp [e])
    have ht : sep ∉ cs := fun e => h (List.mem_cons_of_mem _ e)
    simp [pieces, hc, ih ht]

/-- A text that is cut at a known place: what stands before the place, when it has
    no separator, is the first piece. -/
theorem pieces_append_cons {sep : Char} {before : List Char} (h : sep ∉ before)
    (after : List Char) : pieces sep (before ++ sep :: after) = before :: pieces sep after := by
  induction before with
  | nil => simp [pieces]
  | cons c cs ih =>
    have hc : c ≠ sep := fun e => h (by simp [e])
    have ht : sep ∉ cs := fun e => h (List.mem_cons_of_mem _ e)
    simp [pieces, hc, ih ht]

theorem sep_notMem_of_mem_pieces {sep : Char} {cs p : List Char} (h : p ∈ pieces sep cs) :
    sep ∉ p := by
  induction cs generalizing p with
  | nil => simp_all [pieces]
  | cons c cs ih =>
    unfold pieces at h
    by_cases hc : c = sep
    · rcases List.mem_cons.1 (by simpa [hc] using h) with h | h
      · simp [h]
      · exact ih h
    · rcases hq : pieces sep cs with _ | ⟨q, qs⟩
      · exact absurd hq (pieces_ne_nil sep cs)
      · rw [hq] at h ih
        rcases List.mem_cons.1 (by simpa [hc] using h) with h | h
        · subst h
          simpa [Ne.symm hc] using ih (List.mem_cons_self ..)
        · exact ih (List.mem_cons_of_mem _ h)

/-- There is one piece more than there are separators. -/
theorem length_pieces (sep : Char) (cs : List Char) :
    (pieces sep cs).length = cs.count sep + 1 := by
  induction cs with
  | nil => rfl
  | cons c cs ih =>
    by_cases hc : c = sep
    · simp [pieces, hc, ih]
    · obtain ⟨p, ps, split⟩ := List.exists_cons_of_ne_nil (pieces_ne_nil sep cs)
      rw [split] at ih
      simpa [pieces, hc, split] using ih

/-- The characters of the pieces are those of the text, the separators apart. -/
theorem forall_pieces {sep : Char} {P : Char → Prop} {cs : List Char} :
    (∀ p ∈ pieces sep cs, ∀ c ∈ p, P c) ↔ ∀ c ∈ cs, c = sep ∨ P c := by
  induction cs with
  | nil => simp [pieces]
  | cons c cs ih =>
    by_cases hc : c = sep
    · simp [pieces, hc, ih]
    · obtain ⟨p, ps, split⟩ := List.exists_cons_of_ne_nil (pieces_ne_nil sep cs)
      rw [split] at ih
      simp only [pieces, hc, split, if_false, List.forall_mem_cons, false_or] at ih ⊢
      rw [← ih, and_assoc]

/-! ## 2. The first separator -/

/-- What stands before and after the first separator, if there is one. -/
def cut (sep : Char) : List Char → Option (List Char × List Char)
  | [] => none
  | c :: cs =>
    if c = sep then some ([], cs)
    else (cut sep cs).map fun r => (c :: r.1, r.2)

/-- The first cut splits the text at a separator that nothing before it repeats. -/
theorem cut_eq_some {sep : Char} {cs before after : List Char} :
    cut sep cs = some (before, after) ↔ cs = before ++ sep :: after ∧ sep ∉ before := by
  induction cs generalizing before with
  | nil => simp [cut]
  | cons c cs ih =>
    by_cases hc : c = sep
    · cases before with
      | nil => simp [cut, hc, eq_comm]
      | cons d ds => simp +contextual [cut, hc]
    · cases before with
      | nil => simp [cut, hc]
      | cons d ds =>
        simp only [cut, hc, if_false, Option.map_eq_some_iff, Prod.mk.injEq, List.cons.injEq,
          List.cons_append, List.mem_cons, not_or]
        constructor
        · rintro ⟨⟨b, a⟩, h, ⟨rfl, rfl⟩, rfl⟩
          have := ih.1 h
          exact ⟨⟨rfl, this.1⟩, Ne.symm hc, this.2⟩
        · rintro ⟨⟨rfl, h⟩, _, hs⟩
          exact ⟨(ds, after), ih.2 ⟨h, hs⟩, ⟨rfl, rfl⟩, rfl⟩

theorem cut_eq_none {sep : Char} {cs : List Char} : cut sep cs = none ↔ sep ∉ cs := by
  induction cs with
  | nil => simp [cut]
  | cons c cs ih =>
    by_cases hc : c = sep
    · simp [cut, hc]
    · simp [cut, hc, ih, Ne.symm hc]

end AccessControl.Text
