/-
  AccessControl/Proofs/Json/Layout.lean
  =====================================
  **A value is read back from its text.**

  The two printers put line ends and blanks in different places and agree on everything else, so
  they are one printer with two layouts.  The reader passes over line ends and blanks wherever a
  layout may have them.  It is given fuel for twice the length of a text and never runs out of
  it: going into a value costs one step and passes the bracket, and going on to the next item
  costs one and passes the comma.

  A text is first read as a draft.  Of a printed value all leaves of the draft can be read, so
  the draft is the value itself.

  ## Main definitions

  * `Json.Layout`: where a text has line ends and blanks;
  * `Json.Layout.chars`: the text of a value in a layout;
  * `Json.Fits`: the values that are read back.

  ## Main statements

  * `Layout.chars_tight`, `Layout.chars_indented`: both printers have a layout;
  * `Layout.readsBack`: the reader stops right behind a printed value;
  * `draft?_compact`, `draft?_pretty`, `parse?_printed`: a printed value is read back.
-/
import AccessControl.Proofs.Json.Scalars
import AccessControl.Proofs.Json.Spelling

namespace AccessControl.Json

open Text

/-! ## 1. Layouts -/

/-- Where a text has line ends and blanks: in front of what is so many levels deep, and behind
    the colon of an entry. -/
structure Layout where
  line : Nat → List Char
  gap : List Char
  blank_line : ∀ level, ∀ c ∈ line level, isBlank c = true
  blank_gap : ∀ c ∈ gap, isBlank c = true

namespace Layout

def tight : Layout where
  line _ := []
  gap := []
  blank_line := nofun
  blank_gap := nofun

def indented : Layout where
  line := newLine
  gap := [' ']
  blank_line level c hc := by
    rcases List.mem_cons.1 hc with rfl | hc
    · rfl
    · rw [List.eq_of_mem_replicate hc]
      rfl
  blank_gap c hc := by
    rw [List.mem_singleton.1 hc]
    rfl

@[simp] theorem tight_line (level : Nat) : tight.line level = [] := rfl

@[simp] theorem tight_gap : tight.gap = [] := rfl

@[simp] theorem indented_line (level : Nat) : indented.line level = newLine level := rfl

@[simp] theorem indented_gap : indented.gap = [' '] := rfl

variable (l : Layout)

mutual

/-- The characters of a value in a layout. -/
def chars (level : Nat) : Json → List Char
  | .scalar s => scalarText s
  | .list [] => ['[', ']']
  | .list (j :: js) => '[' :: l.line (level + 1) ++ chars (level + 1) j ++ items level js
  | .table [] => ['\x7b', '\x7d']
  | .table ((k, v) :: es) =>
    '\x7b' :: l.line (level + 1) ++ literalText k ++ ':' :: l.gap ++ chars (level + 1) v
      ++ entries level es
termination_by structural j => j

def items (level : Nat) : List Json → List Char
  | [] => l.line level ++ [']']
  | j :: js => ',' :: l.line (level + 1) ++ chars (level + 1) j ++ items level js
termination_by structural js => js

def entries (level : Nat) : List (String × Json) → List Char
  | [] => l.line level ++ ['\x7d']
  | (k, v) :: es =>
    ',' :: l.line (level + 1) ++ literalText k ++ ':' :: l.gap ++ chars (level + 1) v
      ++ entries level es
termination_by structural es => es

end

mutual

theorem chars_tight (level : Nat) : (j : Json) → tight.chars level j = compactChars j
  | .scalar _ => rfl
  | .list [] => rfl
  | .list (j :: js) => by
    simp [chars, compactChars, chars_tight (level + 1) j, items_tight level js]
  | .table [] => rfl
  | .table ((k, v) :: es) => by
    simp [chars, compactChars, chars_tight (level + 1) v, entries_tight level es]
termination_by structural j => j

theorem items_tight (level : Nat) : (js : List Json) → tight.items level js = compactItems js
  | [] => rfl
  | j :: js => by
    simp [items, compactItems, chars_tight (level + 1) j, items_tight level js]
termination_by structural js => js

theorem entries_tight (level : Nat) :
    (es : List (String × Json)) → tight.entries level es = compactEntries es
  | [] => rfl
  | (k, v) :: es => by
    simp [entries, compactEntries, chars_tight (level + 1) v, entries_tight level es]
termination_by structural es => es

end

mutual

theorem chars_indented (level : Nat) : (j : Json) → indented.chars level j = prettyChars level j
  | .scalar _ => rfl
  | .list [] => rfl
  | .list (j :: js) => by
    simp [chars, prettyChars, chars_indented (level + 1) j, items_indented level js]
  | .table [] => rfl
  | .table ((k, v) :: es) => by
    simp [chars, prettyChars, chars_indented (level + 1) v, entries_indented level es]
termination_by structural j => j

theorem items_indented (level : Nat) :
    (js : List Json) → indented.items level js = prettyItems level js
  | [] => rfl
  | j :: js => by
    simp [items, prettyItems, chars_indented (level + 1) j, items_indented level js]
termination_by structural js => js

theorem entries_indented (level : Nat) :
    (es : List (String × Json)) → indented.entries level es = prettyEntries level es
  | [] => rfl
  | (k, v) :: es => by
    simp [entries, prettyEntries, chars_indented (level + 1) v, entries_indented level es]
termination_by structural es => es

end

end Layout

/-! ## 2. Values that are read back -/

mutual

/-- The value is at most so many levels deep, and its leaves are read back. -/
def Fits (depth : Nat) : Json → Prop
  | .scalar s => s.Fits
  | .list js => 0 < depth ∧ ItemsFit (depth - 1) js
  | .table es => 0 < depth ∧ EntriesFit (depth - 1) es
termination_by structural j => j

def ItemsFit (depth : Nat) : List Json → Prop
  | [] => True
  | j :: js => Fits depth j ∧ ItemsFit depth js
termination_by structural js => js

def EntriesFit (depth : Nat) : List (String × Json) → Prop
  | [] => True
  | (_, v) :: es => Fits depth v ∧ EntriesFit depth es
termination_by structural es => es

end

mutual

theorem json?_map_some : (j : Json) → (j.map some).json? = some j
  | .scalar _ => rfl
  | .list js => by simp [Document.map, Document.json?, jsonItems?_map_some js]
  | .table es => by simp [Document.map, Document.json?, jsonEntries?_map_some es]
termination_by structural j => j

theorem jsonItems?_map_some :
    (js : List Json) → Document.jsonItems? (Document.mapItems some js) = some js
  | [] => rfl
  | j :: js => by
    simp [Document.mapItems, Document.jsonItems?, json?_map_some j, jsonItems?_map_some js]
termination_by structural js => js

theorem jsonEntries?_map_some :
    (es : List (String × Json)) → Document.jsonEntries? (Document.mapEntries some es) = some es
  | [] => rfl
  | (k, v) :: es => by
    simp [Document.mapEntries, Document.jsonEntries?, json?_map_some v, jsonEntries?_map_some es]
termination_by structural es => es

end

/-! ## 3. Steps of the reader -/

section Steps

variable {c : Char} {cs tail rest after blanks : List Char} {fuel depth : Nat}
  {name : Option String} {d : JsonDraft}

theorem skipBlank_append (blank : ∀ c ∈ blanks, isBlank c = true) (cs : List Char) :
    skipBlank (blanks ++ cs) = skipBlank cs :=
  List.dropWhile_append_of_pos blank

theorem skipBlank_cons (shown : isBlank c = false) (cs : List Char) :
    skipBlank (c :: cs) = c :: cs := by
  simp [skipBlank, shown]

theorem endsNumber_append (blank : ∀ c ∈ blanks, isBlank c = true) (ends : EndsNumber rest) :
    EndsNumber (blanks ++ rest) := by
  cases blanks with
  | nil => exact ends
  | cons b blanks =>
    intro c hc
    obtain rfl : b = c := by simpa using hc
    have white := blank b (by simp)
    refine ⟨?_, ?_, ?_, ?_⟩
    · by_contra digit
      simp only [isBlank, Bool.or_eq_true, beq_iff_eq] at white
      rcases white with ((rfl | rfl) | rfl) | rfl <;> exact digit rfl
    all_goals
      rintro rfl
      exact absurd white (by decide)

theorem value?_scalar (opens : OpensScalar c) (shown : skipBlank cs = c :: tail) :
    value? (fuel + 1) depth cs = (scalar? (c :: tail)).map fun p => (.scalar p.1, p.2) := by
  obtain ⟨-, list, table, -, -⟩ := opens
  rw [value?, shown]
  all_goals simp [shown, list, table]

theorem value?_nil (shown : skipBlank cs = '[' :: tail)
    (close : skipBlank tail = ']' :: after) :
    value? (fuel + 1) (depth + 1) cs = some (.list [], after) := by
  unfold value?
  simp only [shown, close]

theorem value?_empty (shown : skipBlank cs = '\x7b' :: tail)
    (close : skipBlank tail = '\x7d' :: after) :
    value? (fuel + 1) (depth + 1) cs = some (.table [], after) := by
  unfold value?
  simp only [shown, close]

theorem value?_list (shown : skipBlank cs = '[' :: tail)
    (more : ∀ after, skipBlank tail ≠ ']' :: after) :
    value? (fuel + 1) (depth + 1) cs
      = (items? fuel depth tail).map fun p => (.list p.1, p.2) := by
  unfold value?
  simp only [shown]

theorem value?_table (shown : skipBlank cs = '\x7b' :: tail)
    (more : ∀ after, skipBlank tail ≠ '\x7d' :: after) :
    value? (fuel + 1) (depth + 1) cs
      = (entries? fuel depth tail).map fun p => (tableOf p.1, p.2) := by
  unfold value?
  simp only [shown]

theorem items?_last (item : value? fuel depth cs = some (d, rest))
    (close : skipBlank rest = ']' :: tail) : items? (fuel + 1) depth cs = some ([d], tail) := by
  simp [items?, item, close]

theorem items?_next {ds : List JsonDraft}
    (item : value? fuel depth cs = some (d, rest)) (comma : skipBlank rest = ',' :: tail)
    (next : items? fuel depth tail = some (ds, after)) :
    items? (fuel + 1) depth cs = some (d :: ds, after) := by
  simp [items?, item, comma, next]

theorem name?_literalText (blank : ∀ c ∈ blanks, isBlank c = true) (k : String) (rest : List Char) :
    name? (blanks ++ (literalText k ++ ':' :: rest)) = some (some k, rest) := by
  have quote : skipBlank ('"' :: (k.toList.flatMap escapeChar ++ '"' :: ':' :: rest))
      = '"' :: (k.toList.flatMap escapeChar ++ '"' :: ':' :: rest) := skipBlank_cons rfl _
  have colon : skipBlank (':' :: rest) = ':' :: rest := skipBlank_cons rfl _
  simp [name?, skipBlank_append blank, literalText, quote, literal?_escaped, colon]

theorem entries?_last (named : name? cs = some (name, tail))
    (value : value? fuel depth tail = some (d, rest)) (close : skipBlank rest = '\x7d' :: after) :
    entries? (fuel + 1) depth cs = some ([(name, d)], after) := by
  simp [entries?, named, value, close]

theorem entries?_next {next : List Char} {entries : List (Option String × JsonDraft)}
    (named : name? cs = some (name, tail))
    (value : value? fuel depth tail = some (d, rest)) (comma : skipBlank rest = ',' :: next)
    (others : entries? fuel depth next = some (entries, after)) :
    entries? (fuel + 1) depth cs = some ((name, d) :: entries, after) := by
  simp [entries?, named, value, comma, others]

theorem tableOf_named (entries : List (String × JsonDraft)) :
    tableOf (entries.map fun e => (some e.1, e.2)) = .table entries := by
  have whole : (entries.map fun e => (some e.1, e.2)).mapM
      (fun e : Option String × JsonDraft => e.1.map fun name => (name, e.2)) = some entries := by
    induction entries with
    | nil => rfl
    | cons e entries ih => simp [List.mapM_cons, ih]
  simp [tableOf, whole]

end Steps

/-! ## 4. Values -/

namespace Layout

variable (l : Layout) (level : Nat)

theorem exists_chars {j : Json} {depth : Nat} (fits : Fits depth j) :
    ∃ c cs, l.chars level j = c :: cs ∧ isBlank c = false ∧ c ≠ ']' := by
  cases j with
  | scalar s =>
    obtain ⟨c, cs, text, shown, -, -, close, -⟩ := exists_scalarText fits
    exact ⟨c, cs, text, shown, close⟩
  | list js => cases js <;> exact ⟨'[', _, rfl, by decide⟩
  | table es =>
    rcases es with _ | ⟨⟨k, v⟩, es⟩ <;> exact ⟨'\x7b', _, rfl, by decide⟩

theorem skipBlank_chars {j : Json} {depth : Nat} (fits : Fits depth j) {blanks : List Char}
    (blank : ∀ c ∈ blanks, isBlank c = true) (rest : List Char) :
    skipBlank (blanks ++ (l.chars level j ++ rest)) = l.chars level j ++ rest := by
  obtain ⟨c, cs, text, shown, -⟩ := exists_chars l level fits
  rw [skipBlank_append blank, text]
  exact skipBlank_cons shown _

variable {l level}

theorem endsNumber_items (js : List Json) (rest : List Char) :
    EndsNumber (l.items level js ++ rest) := by
  cases js with
  | nil =>
    rw [items, List.append_assoc]
    refine endsNumber_append (l.blank_line level) fun c hc => ?_
    obtain rfl : ']' = c := by simpa using hc
    decide
  | cons j js =>
    intro c hc
    obtain rfl : ',' = c := by simpa [items] using hc
    decide

theorem endsNumber_entries (es : List (String × Json)) (rest : List Char) :
    EndsNumber (l.entries level es ++ rest) := by
  rcases es with _ | ⟨⟨k, v⟩, es⟩
  · rw [entries, List.append_assoc]
    refine endsNumber_append (l.blank_line level) fun c hc => ?_
    obtain rfl : '\x7d' = c := by simpa using hc
    decide
  · intro c hc
    obtain rfl : ',' = c := by simpa [entries] using hc
    decide

theorem skipBlank_close {c : Char} (shown : isBlank c = false) (rest : List Char) :
    skipBlank (l.line level ++ [c] ++ rest) = c :: rest := by
  rw [List.append_assoc, skipBlank_append (l.blank_line level)]
  exact skipBlank_cons shown rest

variable (l level)

/-- The reader takes the text of the value for the value, and stops right behind it. -/
def ReadsBack (j : Json) : Prop :=
  ∀ fuel depth cs rest, Fits depth j → EndsNumber rest →
    skipBlank cs = l.chars level j ++ rest → 2 * (l.chars level j).length ≤ fuel →
    value? fuel depth cs = some (j.map some, rest)

def ItemsReadBack (js : List Json) : Prop :=
  ∀ fuel depth cs rest d, ItemsFit depth js →
    value? fuel depth cs = some (d, l.items level js ++ rest) →
    2 * (l.items level js).length ≤ fuel →
    items? (fuel + 1) depth cs = some (d :: Document.mapItems some js, rest)

def EntriesReadBack (es : List (String × Json)) : Prop :=
  ∀ fuel depth cs tail rest name d, EntriesFit depth es → name? cs = some (name, tail) →
    value? fuel depth tail = some (d, l.entries level es ++ rest) →
    2 * (l.entries level es).length ≤ fuel →
    entries? (fuel + 1) depth cs
      = some ((name, d) :: (Document.mapEntries some es).map fun e => (some e.1, e.2), rest)

variable {l level} {j v : Json} {js : List Json} {k : String} {es : List (String × Json)}

theorem readsBack_scalar (s : JsonScalar) : l.ReadsBack level (.scalar s) := by
  intro fuel depth cs rest fits ends shown enough
  obtain ⟨c, tail, text, opens⟩ := exists_scalarText fits
  have read := scalar?_scalarText fits ends
  rw [chars, text, List.cons_append] at shown
  rw [chars, text, List.length_cons] at enough
  rw [text, List.cons_append] at read
  obtain ⟨n, rfl⟩ : ∃ n, fuel = n + 1 := ⟨fuel - 1, by omega⟩
  rw [value?_scalar opens shown, read]
  rfl

theorem readsBack_nil : l.ReadsBack level (.list []) := by
  intro fuel depth cs rest fits _ shown enough
  obtain ⟨n, rfl⟩ : ∃ n, fuel = n + 1 := ⟨fuel - 1, by simp [chars] at enough; omega⟩
  obtain ⟨m, rfl⟩ : ∃ m, depth = m + 1 := ⟨depth - 1, by have := fits.1; omega⟩
  exact value?_nil shown (skipBlank_cons rfl rest)

theorem readsBack_list (first : l.ReadsBack (level + 1) j) (others : l.ItemsReadBack level js) :
    l.ReadsBack level (.list (j :: js)) := by
  intro fuel depth cs rest fits _ shown enough
  obtain ⟨deep, fit, fits⟩ := fits
  simp only [chars, List.cons_append, List.append_assoc, List.length_cons,
    List.length_append] at shown enough
  -- one step goes into the list, and one to its first item
  obtain ⟨n, rfl⟩ : ∃ n, fuel = n + 1 + 1 := ⟨fuel - 2, by omega⟩
  obtain ⟨m, rfl⟩ : ∃ m, depth = m + 1 := ⟨depth - 1, by omega⟩
  have start := skipBlank_chars l (level + 1) fit (l.blank_line (level + 1))
    (l.items level js ++ rest)
  have more (after : List Char) : skipBlank (l.line (level + 1) ++
      (l.chars (level + 1) j ++ (l.items level js ++ rest))) ≠ ']' :: after := by
    obtain ⟨c, cs, text, -, close⟩ := exists_chars l (level + 1) fit
    rw [start, text]
    intro whole
    exact close (List.cons.inj whole).1
  have read := first n m _ _ fit (endsNumber_items js rest) start (by omega)
  rw [value?_list shown more, others n m _ rest _ fits read (by omega)]
  rfl

theorem readsBack_empty : l.ReadsBack level (.table []) := by
  intro fuel depth cs rest fits _ shown enough
  obtain ⟨n, rfl⟩ : ∃ n, fuel = n + 1 := ⟨fuel - 1, by simp [chars] at enough; omega⟩
  obtain ⟨m, rfl⟩ : ∃ m, depth = m + 1 := ⟨depth - 1, by have := fits.1; omega⟩
  exact value?_empty shown (skipBlank_cons rfl rest)

theorem readsBack_table (first : l.ReadsBack (level + 1) v) (others : l.EntriesReadBack level es) :
    l.ReadsBack level (.table ((k, v) :: es)) := by
  intro fuel depth cs rest fits _ shown enough
  obtain ⟨deep, fit, fits⟩ := fits
  simp only [chars, List.cons_append, List.append_assoc, List.length_cons,
    List.length_append] at shown enough
  obtain ⟨n, rfl⟩ : ∃ n, fuel = n + 1 + 1 := ⟨fuel - 2, by omega⟩
  obtain ⟨m, rfl⟩ : ∃ m, depth = m + 1 := ⟨depth - 1, by omega⟩
  have named := name?_literalText (l.blank_line (level + 1)) k
    (l.gap ++ (l.chars (level + 1) v ++ (l.entries level es ++ rest)))
  have start := skipBlank_chars l (level + 1) fit l.blank_gap (l.entries level es ++ rest)
  have more (after : List Char) : skipBlank (l.line (level + 1) ++ (literalText k ++ ':' ::
      (l.gap ++ (l.chars (level + 1) v ++ (l.entries level es ++ rest))))) ≠ '\x7d' :: after := by
    rw [skipBlank_append (l.blank_line _), literalText]
    simp [skipBlank_cons (c := '"') rfl]
  have read := first n m _ _ fit (endsNumber_entries es rest) start (by omega)
  rw [value?_table shown more, others n m _ _ rest _ _ fits named read (by omega)]
  rw [Option.map_some]
  exact congrArg (fun table => some (table, rest))
    (tableOf_named ((k, v.map some) :: Document.mapEntries some es))

theorem itemsReadBack_nil : l.ItemsReadBack level [] := by
  intro fuel depth cs rest d _ item _
  exact items?_last item (skipBlank_close rfl rest)

theorem itemsReadBack_cons (first : l.ReadsBack (level + 1) j) (others : l.ItemsReadBack level js) :
    l.ItemsReadBack level (j :: js) := by
  intro fuel depth cs rest d fits item enough
  obtain ⟨fit, fits⟩ := fits
  simp only [items, List.cons_append, List.append_assoc, List.length_cons,
    List.length_append] at item enough
  obtain ⟨n, rfl⟩ : ∃ n, fuel = n + 1 := ⟨fuel - 1, by omega⟩
  have start := skipBlank_chars l (level + 1) fit (l.blank_line (level + 1))
    (l.items level js ++ rest)
  have read := first n depth _ _ fit (endsNumber_items js rest) start (by omega)
  exact items?_next item (skipBlank_cons rfl _) (others n depth _ rest _ fits read (by omega))

theorem entriesReadBack_nil : l.EntriesReadBack level [] := by
  intro fuel depth cs tail rest name d _ named value _
  exact entries?_last named value (skipBlank_close rfl rest)

theorem entriesReadBack_cons (first : l.ReadsBack (level + 1) v)
    (others : l.EntriesReadBack level es) : l.EntriesReadBack level ((k, v) :: es) := by
  intro fuel depth cs tail rest name d fits named value enough
  obtain ⟨fit, fits⟩ := fits
  simp only [entries, List.cons_append, List.append_assoc, List.length_cons,
    List.length_append] at value enough
  obtain ⟨n, rfl⟩ : ∃ n, fuel = n + 1 := ⟨fuel - 1, by omega⟩
  have start := skipBlank_chars l (level + 1) fit l.blank_gap (l.entries level es ++ rest)
  have read := first n depth _ _ fit (endsNumber_entries es rest) start (by omega)
  exact entries?_next named value (skipBlank_cons rfl _)
    (others n depth _ _ rest _ _ fits (name?_literalText (l.blank_line _) k _) read (by omega))

mutual

theorem readsBack (level : Nat) : (j : Json) → l.ReadsBack level j
  | .scalar s => readsBack_scalar s
  | .list [] => readsBack_nil
  | .list (j :: js) => readsBack_list (readsBack (level + 1) j) (itemsReadBack level js)
  | .table [] => readsBack_empty
  | .table ((_, v) :: es) => readsBack_table (readsBack (level + 1) v) (entriesReadBack level es)
termination_by structural j => j

theorem itemsReadBack (level : Nat) : (js : List Json) → l.ItemsReadBack level js
  | [] => itemsReadBack_nil
  | j :: js => itemsReadBack_cons (readsBack (level + 1) j) (itemsReadBack level js)
termination_by structural js => js

theorem entriesReadBack (level : Nat) : (es : List (String × Json)) → l.EntriesReadBack level es
  | [] => entriesReadBack_nil
  | (_, v) :: es => entriesReadBack_cons (readsBack (level + 1) v) (entriesReadBack level es)
termination_by structural es => es

end

theorem draft?_chars (l : Layout) (level : Nat) (fits : Fits depthLimit j) :
    draft? (String.ofList (l.chars level j)) = some (j.map some) := by
  have ends : EndsNumber [] := nofun
  have start : skipBlank (l.chars level j) = l.chars level j ++ [] := by
    obtain ⟨c, cs, text, shown, -⟩ := exists_chars l level fits
    rw [text, List.append_nil]
    exact skipBlank_cons shown cs
  have read := readsBack level j (2 * (l.chars level j).length + 2) depthLimit _ [] fits ends start
    (by omega)
  unfold draft?
  rw [String.toList_ofList]
  dsimp only
  rw [read]
  rfl

end Layout

/-! ## 5. Texts -/

variable {j : Json}

theorem draft?_compact (fits : Fits depthLimit j) : draft? (compact j) = some (j.map some) := by
  rw [compact, ← Layout.chars_tight 0]
  exact Layout.tight.draft?_chars 0 fits

theorem draft?_pretty (fits : Fits depthLimit j) : draft? (pretty j) = some (j.map some) := by
  rw [pretty, ← Layout.chars_indented]
  exact Layout.indented.draft?_chars 0 fits

/-- Whichever printer wrote it, a value is read back from its text. -/
theorem parse?_printed (fits : Fits depthLimit j) :
    parse? (compact j) = some j ∧ parse? (pretty j) = some j := by
  simp [parse?, draft?_compact fits, draft?_pretty fits, json?_map_some]

end AccessControl.Json
