/-
  AccessControl/Json/Value.lean
  =============================
  **JSON values.**

  A JSON value is a document whose scalars say what they are: `null`, a truth
  value, a whole number, a number with a fraction or an exponent, a text.  A whole
  number and a floating-point one are different values even when they are equal,
  since only the former reads as a count.  Floating-point numbers are kept by
  their bits, so that values can be compared.

  Free-form values (the metadata of a failure) are kept in a canonical form: the
  names of every table in order, and of entries with one name the last alone.

  ## Main definitions

  * `Json`: documents over the JSON scalars; `Json.int`, `Json.text`, … build them;
  * `Json.canonical`: the canonical form of a value.

  ## Main statements

  * `canonical_canonical`: a canonical form is its own canonical form.
-/
import AccessControl.Document.Record

namespace AccessControl

/-! ## 1. Scalars -/

inductive JsonScalar where
  | null
  | bool (value : Bool)
  | int (value : Int)
  /-- A number with a fraction or an exponent, or beyond 64 bits, by the bits of
      its double-precision value. -/
  | float (bits : UInt64)
  | text (value : String)
deriving DecidableEq, Repr, Inhabited

/-- JSON marks its texts, so a scalar reads as one thing only. -/
instance : Scalar JsonScalar where
  text? s := match s with | .text t => some t | _ => none
  flag? s := match s with | .bool b => some b | _ => none
  number? s := match s with | .int n => some n | _ => none
  absent? s := some (s == .null)
  isVoid _ := false
  compact := true

/-- A JSON value. -/
abbrev Json := Document JsonScalar

namespace Json

abbrev null : Json := .scalar .null
abbrev bool (b : Bool) : Json := .scalar (.bool b)
abbrev int (n : Int) : Json := .scalar (.int n)
abbrev text (s : String) : Json := .scalar (.text s)
def optionalText (s : Option String) : Json := match s with | some t => text t | none => null
def texts (ss : List String) : Json := .list (ss.map text)

def optional {α : Type} (write : α → Json) : Option α → Json
  | some a => write a
  | none => null

theorem optional?_optional {α : Type} {read : Json → Option α} {write : α → Json}
    (h : ∀ a, read (write a) = some a) (present : ∀ a, write a ≠ null) (o : Option α) :
    (optional write o).optional? read = some o := by
  rcases o with _ | a
  · rfl
  · have back := h a
    have here := present a
    simp only [optional]
    cases e : write a with
    | scalar s =>
      rw [e] at back here
      have absent : (s == JsonScalar.null) = false := by
        simpa [null] using here
      simp [Document.optional?, Scalar.absent?, absent, back]
    | list items => rw [e] at back; simp [Document.optional?, back]
    | table entries => rw [e] at back; simp [Document.optional?, back]

theorem text?_text (s : String) : (text s).text? = some s := rfl

theorem optional?_text (o : Option String) :
    (optional text o).optional? Document.text? = some o :=
  optional?_optional text?_text (by simp) o

def word64 (n : UInt64) : Json := int n.toNat

def word32 (n : UInt32) : Json := int n.toNat

theorem word64?_word64 (n : UInt64) : (word64 n).word64? = some n := by
  have bound : (n.toNat : Int) ≤ 18446744073709551615 := by
    have := n.toNat_lt
    omega
  simp [word64, Document.word64?, Document.number?, Scalar.number?, Option.filter, bound]

theorem word32?_word32 (n : UInt32) : (word32 n).word32? = some n := by
  have bound : (n.toNat : Int) ≤ 4294967295 := by
    have := n.toNat_lt
    omega
  simp [word32, Document.word32?, Document.number?, Scalar.number?, Option.filter, bound]

def optionalEntry (name : String) (value : Option String) : List (String × Json) :=
  match value with
  | some v => [(name, text v)]
  | none => []

theorem names_optionalEntry (name : String) (value : Option String) :
    ((optionalEntry name value).map Prod.fst).Sublist [name] := by
  cases value <;> simp [optionalEntry]

theorem lookup_optionalEntry (name : String) (value : Option String) :
    (optionalEntry name value).lookup name = value.map text := by
  cases value <;> simp [optionalEntry]

theorem lookup_optionalEntry_of_ne {name other : String} (value : Option String)
    (h : other ≠ name) : (optionalEntry name value).lookup other = none := by
  cases value <;> simp [optionalEntry, Record.lookup_cons_of_ne h]

/-! ## 2. The canonical form -/

/-- An entry put in its place among entries in the order of their names, unless its
    name is there already. -/
def insertEntry (k : String) (v : Json) : List (String × Json) → List (String × Json)
  | [] => [(k, v)]
  | (l, w) :: rest =>
    if k < l then (k, v) :: (l, w) :: rest
    else if k = l then (l, w) :: rest
    else (l, w) :: insertEntry k v rest

mutual

/-- The value with the names of each table in order, and of entries with the same
    name the last one only. -/
def canonical : Json → Json
  | .scalar s => .scalar s
  | .list items => .list (canonicalItems items)
  | .table entries => .table (canonicalEntries entries)
termination_by structural j => j

def canonicalItems : List Json → List Json
  | [] => []
  | j :: js => canonical j :: canonicalItems js
termination_by structural js => js

def canonicalEntries : List (String × Json) → List (String × Json)
  | [] => []
  | (k, v) :: rest => insertEntry k (canonical v) (canonicalEntries rest)
termination_by structural es => es

end

def Ordered (entries : List (String × Json)) : Prop :=
  entries.Pairwise fun a b => a.1 < b.1

theorem head_insertEntry {k l : String} {v : Json} {es : List (String × Json)}
    (hk : l < k) (h : ∀ e ∈ es, l < e.1) : ∀ e ∈ insertEntry k v es, l < e.1 := by
  induction es with
  | nil => simpa [insertEntry] using hk
  | cons e rest ih =>
    obtain ⟨m, w⟩ := e
    have hm : l < m := h (m, w) (by simp)
    have hr : ∀ e ∈ rest, l < e.1 := fun e he => h e (List.mem_cons_of_mem _ he)
    unfold insertEntry
    split
    · intro e he
      rcases List.mem_cons.1 he with rfl | he
      · exact hk
      · exact h e he
    · split
      · exact h
      · intro e he
        rcases List.mem_cons.1 he with rfl | he
        · exact hm
        · exact ih hr e he

theorem ordered_insertEntry {k : String} {v : Json} {es : List (String × Json)}
    (h : Ordered es) : Ordered (insertEntry k v es) := by
  induction es with
  | nil => simp [insertEntry, Ordered]
  | cons e rest ih =>
    obtain ⟨l, w⟩ := e
    obtain ⟨hl, hr⟩ := List.pairwise_cons.1 h
    unfold insertEntry
    split
    · next hk =>
      refine List.pairwise_cons.2 ⟨fun e he => ?_, h⟩
      rcases List.mem_cons.1 he with rfl | he
      · exact hk
      · exact String.lt_trans hk (hl e he)
    · split
      · exact h
      · next hk hne =>
        have hlk : l < k := by
          rcases Std.lt_trichotomy k l with h' | h' | h'
          · exact absurd h' hk
          · exact absurd h' hne
          · exact h'
        exact List.pairwise_cons.2 ⟨head_insertEntry hlk hl, ih hr⟩

theorem ordered_canonicalEntries (es : List (String × Json)) :
    Ordered (canonicalEntries es) := by
  induction es with
  | nil => simp [canonicalEntries, Ordered]
  | cons e rest ih => obtain ⟨k, v⟩ := e; exact ordered_insertEntry ih

theorem mem_insertEntry {k : String} {v : Json} {es : List (String × Json)}
    {e : String × Json} (h : e ∈ insertEntry k v es) : e = (k, v) ∨ e ∈ es := by
  induction es with
  | nil => simpa [insertEntry] using h
  | cons f rest ih =>
    obtain ⟨l, w⟩ := f
    unfold insertEntry at h
    split at h
    · rcases List.mem_cons.1 h with h | h
      · exact Or.inl h
      · exact Or.inr h
    · split at h
      · exact Or.inr h
      · rcases List.mem_cons.1 h with h | h
        · exact Or.inr (by simp [h])
        · exact (ih h).imp id (List.mem_cons_of_mem _)

theorem canonicalEntries_eq_self {es : List (String × Json)} (order : Ordered es)
    (values : ∀ e ∈ es, canonical e.2 = e.2) : canonicalEntries es = es := by
  induction es with
  | nil => rfl
  | cons e rest ih =>
    obtain ⟨k, v⟩ := e
    obtain ⟨hk, hr⟩ := List.pairwise_cons.1 order
    have hv : canonical v = v := values (k, v) (by simp)
    rw [canonicalEntries, ih hr fun e he => values e (List.mem_cons_of_mem _ he), hv]
    -- the first name is below all others, so the entry goes to the front
    cases rest with
    | nil => rfl
    | cons f rest =>
      have : k < f.1 := hk f (by simp)
      simp [insertEntry, this]

mutual

/-- A canonical form is its own canonical form. -/
theorem canonical_canonical : (j : Json) → canonical (canonical j) = canonical j
  | .scalar _ => rfl
  | .list items => by simp only [canonical, canonicalItems_canonicalItems items]
  | .table entries => by
    simp only [canonical]
    rw [canonicalEntries_eq_self (ordered_canonicalEntries entries) (canonical_value entries)]
termination_by structural j => j

theorem canonicalItems_canonicalItems :
    (js : List Json) → canonicalItems (canonicalItems js) = canonicalItems js
  | [] => rfl
  | j :: js => by
    simp only [canonicalItems, canonical_canonical j, canonicalItems_canonicalItems js]
termination_by structural js => js

theorem canonical_value : (es : List (String × Json)) →
    ∀ e ∈ canonicalEntries es, canonical e.2 = e.2
  | [] => by simp [canonicalEntries]
  | (k, v) :: rest => by
    intro e he
    rcases mem_insertEntry he with rfl | he
    · exact canonical_canonical v
    · exact canonical_value rest e he
termination_by structural es => es

end

end Json

end AccessControl
