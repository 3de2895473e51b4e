/-
  AccessControl/Proofs/Json/Steady.lean
  =====================================
  **Readers that look at a value only up to its canonical form.**

  A table is a set of named entries.  Who keeps one may keep its entries in another order, and
  of entries with the same name the last one only.  A reader is steady if it does not mind:
  what it makes of a value it also makes of the value in canonical form.  Steadiness is a
  property of the parts.  The readers of leaves have it, since a leaf is its own canonical form;
  lists, optional values and unions keep it; a record has it if all of its fields do, since a
  known name stands in a table that reads as a record once only.

  ## Main definitions

  * `Json.Steady`: the reader makes the same of a value in canonical form;
  * `Record.Settles`: one record holds the fields of another in canonical form;
  * `Record.Steady`: the same for what reads the fields of a record.

  ## Main statements

  * `filter_canonicalEntries`, `lookup_canonicalEntries`: entries in canonical form;
  * `record?_canonical`, `tagged?_canonical`: records and unions in canonical form;
  * `Json.Steady.record`, `Json.Steady.tagged`: who reads them is steady if the parts are.
-/
import AccessControl.Json.Draft

namespace AccessControl

/-! ## 1. Entries in canonical form -/

namespace Json

variable {k name : String} {v : Json} {es : List (String × Json)}

theorem canonicalItems_eq_map (js : List Json) : canonicalItems js = js.map canonical := by
  induction js with
  | nil => rfl
  | cons j js ih => rw [canonicalItems, ih, List.map_cons]

theorem insertEntry_of_lt (h : ∀ e ∈ es, k < e.1) : insertEntry k v es = (k, v) :: es := by
  cases es with
  | nil => rfl
  | cons e rest =>
    have below : k < e.1 := h e (by simp)
    simp [insertEntry, below]

theorem filter_insertEntry (p : String → Bool) (order : Ordered es) :
    (insertEntry k v es).filter (fun e => p e.1)
      = if p k then insertEntry k v (es.filter fun e => p e.1)
        else es.filter fun e => p e.1 := by
  induction es with
  | nil => by_cases hk : p k <;> simp [insertEntry, hk]
  | cons e rest ih =>
    obtain ⟨l, w⟩ := e
    obtain ⟨above, ordered⟩ := List.pairwise_cons.1 order
    rw [insertEntry]
    by_cases below : k < l
    · -- the new name is below all that are chosen
      have all : ∀ e ∈ ((l, w) :: rest).filter (fun e => p e.1), k < e.1 := fun e he => by
        rcases List.mem_cons.1 (List.mem_filter.1 he).1 with rfl | he
        · exact below
        · exact String.lt_trans below (above e he)
      rw [if_pos below, insertEntry_of_lt all, List.filter_cons]
    · rw [if_neg below]
      by_cases same : k = l
      · subst same
        by_cases hk : p k <;> simp [hk, insertEntry]
      · rw [if_neg same, List.filter_cons, ih ordered]
        by_cases hk : p k <;> by_cases hl : p l <;>
          simp [hk, hl, insertEntry, below, same]

/-- Entries can be chosen by their names before or after they are put in canonical form. -/
theorem filter_canonicalEntries (p : String → Bool) (es : List (String × Json)) :
    (canonicalEntries es).filter (fun e => p e.1)
      = canonicalEntries (es.filter fun e => p e.1) := by
  induction es with
  | nil => rfl
  | cons e rest ih =>
    obtain ⟨k, v⟩ := e
    rw [canonicalEntries, filter_insertEntry p (ordered_canonicalEntries rest), ih,
      List.filter_cons]
    by_cases hk : p k <;> simp [hk, canonicalEntries]

theorem lookup_insertEntry (new : es.lookup k = none) :
    (insertEntry k v es).lookup name = if name = k then some v else es.lookup name := by
  induction es with
  | nil =>
    by_cases same : name = k
    · rw [if_pos same, insertEntry, same, List.lookup_cons_self]
    · rw [if_neg same, insertEntry, Record.lookup_cons_of_ne same]
  | cons e rest ih =>
    obtain ⟨l, w⟩ := e
    have differ : k ≠ l := by
      rintro rfl
      rw [List.lookup_cons_self] at new
      cases new
    rw [Record.lookup_cons_of_ne differ] at new
    rw [insertEntry, if_neg differ]
    by_cases below : k < l
    · rw [if_pos below]
      by_cases same : name = k
      · rw [if_pos same, same, List.lookup_cons_self]
      · rw [if_neg same, Record.lookup_cons_of_ne same]
    · rw [if_neg below]
      by_cases first : name = l
      · rw [first, List.lookup_cons_self, List.lookup_cons_self, if_neg fun h => differ h.symm]
      · rw [Record.lookup_cons_of_ne first, Record.lookup_cons_of_ne first, ih new]

theorem lookup_eq_none (absent : name ∉ es.map Prod.fst) : es.lookup name = none := by
  induction es with
  | nil => rfl
  | cons e rest ih =>
    simp only [List.map_cons, List.mem_cons, not_or] at absent
    rw [Record.lookup_cons_of_ne absent.1, ih absent.2]

/-- Of entries with different names each is found as before, its value in canonical form. -/
theorem lookup_canonicalEntries (once : (es.map Prod.fst).Nodup) :
    (canonicalEntries es).lookup name = (es.lookup name).map canonical := by
  induction es generalizing name with
  | nil => rfl
  | cons e rest ih =>
    obtain ⟨k, v⟩ := e
    obtain ⟨absent, once⟩ := List.nodup_cons.1 once
    have new : (canonicalEntries rest).lookup k = none := by
      rw [ih once, lookup_eq_none absent, Option.map_none]
    rw [canonicalEntries, lookup_insertEntry new]
    by_cases same : name = k
    · rw [if_pos same, same, List.lookup_cons_self, Option.map_some]
    · rw [if_neg same, ih once, Record.lookup_cons_of_ne same]

theorem nodup_canonicalEntries (es : List (String × Json)) :
    ((canonicalEntries es).map Prod.fst).Nodup := by
  refine List.pairwise_map.2 ((ordered_canonicalEntries es).imp fun below same => ?_)
  rw [same] at below
  exact String.lt_irrefl _ below

end Json

/-! ## 2. Records and unions in canonical form -/

/-- The second record holds the fields of the first in canonical form. -/
structure Record.Settles (r r' : Record JsonScalar) : Prop where
  positional : r'.positional = r.positional
  lookup : ∀ name, r'.fields.lookup name = (r.fields.lookup name).map Json.canonical

theorem lookup_zip_map {names : List String} {js : List Json} {f : Json → Json} {name : String} :
    (names.zip (js.map f)).lookup name = ((names.zip js).lookup name).map f := by
  induction names generalizing js with
  | nil => rfl
  | cons n names ih =>
    cases js with
    | nil => rfl
    | cons j js =>
      rw [List.map_cons, List.zip_cons_cons, List.zip_cons_cons]
      by_cases same : name = n
      · rw [same, List.lookup_cons_self, List.lookup_cons_self, Option.map_some]
      · rw [Record.lookup_cons_of_ne same, Record.lookup_cons_of_ne same, ih]

/-- The canonical form of a record is a record of the same fields. -/
theorem Document.record?_canonical {names : List String} {j : Json} {r : Record JsonScalar}
    (h : j.record? names = some r) :
    ∃ r', j.canonical.record? names = some r' ∧ r.Settles r' := by
  cases j with
  | scalar s => cases h
  | list items =>
    simp only [Document.record?] at h
    split at h
    · next short =>
      obtain rfl := Option.some.inj h
      refine ⟨⟨names.zip (items.map Json.canonical), true⟩, ?_, rfl, fun name => lookup_zip_map⟩
      rw [Json.canonical, Json.canonicalItems_eq_map, Document.record?, List.length_map,
        if_pos short]
    · cases h
  | table entries =>
    simp only [Document.record?] at h
    split at h
    · next once =>
      obtain rfl := Option.some.inj h
      refine ⟨⟨Json.canonicalEntries (entries.filter fun e => names.contains e.1), false⟩, ?_, rfl,
        fun name => Json.lookup_canonicalEntries once⟩
      have known := Json.filter_canonicalEntries names.contains entries
      rw [Json.canonical, Document.record?_table (known ▸ Json.nodup_canonicalEntries _), known]
    · cases h

/-- The canonical form of a union has the same tag, and the fields in canonical form. -/
theorem Document.tagged?_canonical {j content : Json} {tag : String}
    (h : j.tagged? = some (tag, content)) :
    j.canonical.tagged? = some (tag, content.canonical) := by
  cases j with
  | scalar s => cases h
  | list items =>
    cases items with
    | nil => cases h
    | cons first rest =>
      cases first with
      | scalar s =>
        obtain ⟨t, text, same⟩ := Option.map_eq_some_iff.1 h
        obtain ⟨rfl, rfl⟩ := Prod.mk.inj same
        exact Option.map_eq_some_iff.2 ⟨t, text, rfl⟩
      | list _ => cases h
      | table _ => cases h
  | table entries =>
    have tags := Json.filter_canonicalEntries (fun name => name == "type") entries
    have fields := Json.filter_canonicalEntries (fun name => name != "type") entries
    simp only [Document.tagged?] at h
    split at h
    · next name tag' only =>
      obtain ⟨t, text, same⟩ := Option.map_eq_some_iff.1 h
      obtain ⟨rfl, rfl⟩ := Prod.mk.inj same
      -- what has a text is a leaf, so the tag is as it was
      cases tag' with
      | scalar s =>
        simp only [only, Json.canonicalEntries, Json.insertEntry, Json.canonical] at tags
        simp only [Json.canonical, Document.tagged?, tags, fields, text, Option.map_some]
      | list _ => cases text
      | table _ => cases text
    · cases h

/-! ## 3. Steady readers -/

/-- The reader makes of the canonical form of a value what it makes of the value. -/
def Json.Steady {α : Type} (read : Json → Option α) : Prop :=
  ∀ j a, read j = some a → read j.canonical = some a

/-- What is made of the fields of a record is made of them in canonical form too. -/
def Record.Steady {α : Type} (f : Record JsonScalar → Option α) : Prop :=
  ∀ r r' a, r.Settles r' → f r = some a → f r' = some a

namespace Json.Steady

variable {α β : Type} {read : Json → Option α}

theorem leaf (leaves : ∀ j a, read j = some a → ∃ s, j = .scalar s) : Steady read := by
  intro j a h
  obtain ⟨s, rfl⟩ := leaves j a h
  exact h

theorem text : Steady Document.text? :=
  leaf fun j a h => by cases j <;> first | exact ⟨_, rfl⟩ | cases h

theorem flag : Steady Document.flag? :=
  leaf fun j a h => by cases j <;> first | exact ⟨_, rfl⟩ | cases h

theorem number {low high : Int} : Steady (Document.number? low high) :=
  leaf fun j a h => by cases j <;> first | exact ⟨_, rfl⟩ | cases h

theorem map (steady : Steady read) (f : α → β) : Steady fun j => (read j).map f := by
  intro j b h
  obtain ⟨a, ha, same⟩ := Option.map_eq_some_iff.1 h
  exact Option.map_eq_some_iff.2 ⟨a, steady j a ha, same⟩

theorem choice {choices : List (String × α)} : Steady (Document.choice? choices) := by
  intro j a h
  unfold Document.choice? at h
  split at h
  · exact h
  · exact h
  · cases h

theorem list (steady : Steady read) : Steady (Document.list? read) := by
  intro j as h
  cases j with
  | scalar s => cases h
  | table entries => cases h
  | list items =>
    show (canonicalItems items).mapM read = some as
    replace h : items.mapM read = some as := h
    induction items generalizing as with
    | nil => exact h
    | cons item items ih =>
      simp only [List.mapM_cons, Option.bind_eq_bind, Option.bind_eq_some_iff, Option.pure_def,
        Option.some.injEq] at h
      obtain ⟨a, ha, rest, hrest, rfl⟩ := h
      simp only [canonicalItems, List.mapM_cons, steady item a ha, ih rest hrest,
        Option.bind_eq_bind, Option.bind_some, Option.pure_def]

theorem optional (steady : Steady read) : Steady (Document.optional? read) := by
  intro j o h
  cases j with
  | scalar s => exact h
  | list items => exact (steady.map some) (.list items) o h
  | table entries => exact (steady.map some) (.table entries) o h

/-- A record is read field by field. -/
theorem record {names : List String} {f : Record JsonScalar → Option α} (steady : Record.Steady f) :
    Steady fun j => (j.record? names).bind f := by
  intro j a h
  obtain ⟨r, hr, ha⟩ := Option.bind_eq_some_iff.1 h
  obtain ⟨r', hr', settles⟩ := Document.record?_canonical hr
  exact Option.bind_eq_some_iff.2 ⟨r', hr', steady r r' a settles ha⟩

/-- A union is read by its tag. -/
theorem tagged {f : String × Json → Option α} (steady : ∀ tag, Steady fun j => f (tag, j)) :
    Steady fun j => j.tagged?.bind f := by
  intro j a h
  obtain ⟨⟨tag, content⟩, hu, ha⟩ := Option.bind_eq_some_iff.1 h
  exact Option.bind_eq_some_iff.2 ⟨(tag, canonical content), Document.tagged?_canonical hu,
    steady tag content a ha⟩

end Json.Steady

/-! ## 4. Steady readers of fields -/

namespace Record.Steady

variable {α β : Type} {name : String} {read : Json → Option α}

theorem const (o : Option α) : Record.Steady fun _ => o := fun _ _ _ _ h => h

theorem bind {f : Record JsonScalar → Option α} {g : α → Record JsonScalar → Option β}
    (first : Record.Steady f) (next : ∀ a, Record.Steady (g a)) :
    Record.Steady fun r => (f r).bind fun a => g a r := by
  intro r r' b settles h
  obtain ⟨a, ha, hb⟩ := Option.bind_eq_some_iff.1 h
  exact Option.bind_eq_some_iff.2 ⟨a, first r r' a settles ha, next a r r' b settles hb⟩

theorem nested {names : List String} {g : Record JsonScalar → Record JsonScalar → Option α}
    (outer : ∀ c, Record.Steady fun r => g c r) (inner : ∀ r, Record.Steady fun c => g c r) :
    Record.Steady fun r => (r.required name (Document.record? names)).bind fun c => g c r := by
  intro r r' a settles h
  obtain ⟨c, hc, ha⟩ := Option.bind_eq_some_iff.1 h
  obtain ⟨j, hj, hc⟩ := Option.bind_eq_some_iff.1 hc
  obtain ⟨c', hc', fields⟩ := Document.record?_canonical hc
  have field : r'.fields.lookup name = some (Json.canonical j) := by
    rw [settles.lookup, hj, Option.map_some]
  exact Option.bind_eq_some_iff.2 ⟨c', Option.bind_eq_some_iff.2 ⟨Json.canonical j, field, hc'⟩,
    inner r' c c' a fields (outer c r r' a settles ha)⟩

theorem required (steady : Json.Steady read) :
    Record.Steady fun r => r.required name read := by
  intro r r' a settles h
  obtain ⟨j, hj, ha⟩ := Option.bind_eq_some_iff.1 h
  have field : r'.fields.lookup name = some (Json.canonical j) := by
    rw [settles.lookup, hj, Option.map_some]
  exact Option.bind_eq_some_iff.2 ⟨Json.canonical j, field, steady j a ha⟩

theorem optional (steady : Json.Steady read) :
    Record.Steady fun r => r.optional name read := by
  intro r r' o settles h
  simp only [Record.optional] at h ⊢
  rw [settles.lookup, settles.positional]
  cases field : r.fields.lookup name with
  | none => rw [field] at h; exact h
  | some j => rw [field] at h; exact steady.optional j o h

theorem orElse {value : α} (steady : Json.Steady read) :
    Record.Steady fun r => r.orElse name value read := by
  intro r r' a settles h
  simp only [Record.orElse] at h ⊢
  rw [settles.lookup]
  cases field : r.fields.lookup name with
  | none => rw [field] at h; exact h
  | some j => rw [field] at h; exact steady j a h

end Record.Steady

end AccessControl
