/-
  AccessControl/Proofs/Shelf.lean
  ===============================
  **Searching shelves, and values that know their own key.**

  A store finds grants, realms and users not only by their keys but also by searching all
  values.  A search is as good as a look-up when at most one value can satisfy the
  condition: then what is found does not depend on the order of the values
  (`find?_of_perm`).

  Values that carry the key under which they stand keep doing so as long as they are put
  under their own key (`Keyed.put`, `Keyed.erase`).

  ## Main statements

  * `find?_eq_some_of_unique`, `find?_of_perm`: searching for what is there once;
  * `mem_values`: the values are those that are found under some key;
  * `view_put`, `view_put_same`: one aspect of the values, after a value was put;
  * `Keyed.put`, `Keyed.erase`: values keep knowing their keys.
-/
import AccessControl.Shelf

namespace AccessControl

/-! ## 1. Searching for what is there once -/

def Unique {α : Type} (l : List α) (p : α → Bool) : Prop :=
  ∀ a ∈ l, ∀ b ∈ l, p a = true → p b = true → a = b

theorem find?_eq_some_of_unique {α : Type} {l : List α} {p : α → Bool} (h : Unique l p) {a : α} :
    l.find? p = some a ↔ a ∈ l ∧ p a = true := by
  constructor
  · intro found
    exact ⟨List.mem_of_find?_eq_some found, List.find?_some found⟩
  · rintro ⟨ha, hp⟩
    rcases found : l.find? p with _ | b
    · exact absurd hp (List.find?_eq_none.1 found a ha)
    · have hb := List.mem_of_find?_eq_some found
      rw [h a ha b hb hp (List.find?_some found)]

/-- What is there once is found in any order. -/
theorem find?_of_perm {α : Type} {l m : List α} {p : α → Bool} (hlm : l.Perm m)
    (h : Unique l p) : l.find? p = m.find? p := by
  have hm : Unique m p := by
    intro a ha b hb
    exact h a (hlm.mem_iff.2 ha) b (hlm.mem_iff.2 hb)
  apply Option.ext
  intro a
  rw [find?_eq_some_of_unique h, find?_eq_some_of_unique hm, hlm.mem_iff]

namespace Shelf

variable {κ ν : Type} [DecidableEq κ]

/-- The values are those that are found under some key. -/
theorem mem_values {s : Shelf κ ν} {v : ν} : v ∈ s.values ↔ ∃ k, s.get? k = some v := by
  constructor
  · intro h
    obtain ⟨⟨k, w⟩, he, rfl⟩ := List.mem_map.1 h
    exact ⟨k, get?_eq_some.2 he⟩
  · rintro ⟨k, hk⟩
    exact List.mem_map.2 ⟨(k, v), get?_eq_some.1 hk, rfl⟩

theorem get?_put_of_ne (s : Shelf κ ν) {k l : κ} (v : ν) (h : l ≠ k) :
    (s.put k v).get? l = s.get? l := by
  rw [get?_put, if_neg h]

theorem mem_keys_of_get? {s : Shelf κ ν} {k : κ} {v : ν} (h : s.get? k = some v) : k ∈ s.keys :=
  mem_keys.2 (by rw [h]; rfl)

theorem get?_eq_none {s : Shelf κ ν} {k : κ} : s.get? k = none ↔ k ∉ s.keys := by
  rw [mem_keys, Option.not_isSome_iff_eq_none]

theorem mem_keys_put {s : Shelf κ ν} {k l : κ} {v : ν} :
    l ∈ (s.put k v).keys ↔ l = k ∨ l ∈ s.keys := by
  rw [mem_keys, mem_keys, get?_put]
  by_cases h : l = k <;> simp [h]

theorem mem_keys_erase {s : Shelf κ ν} {k l : κ} : l ∈ (s.erase k).keys ↔ l ∈ s.keys ∧ l ≠ k := by
  rw [keys_erase, List.mem_filter, bne_iff_ne]

/-! ## 2. One aspect of the values -/

def view {β : Type} (s : Shelf κ ν) (f : ν → β) (k : κ) : Option β := (s.get? k).map f

section View

variable {β : Type} {s : Shelf κ ν} {f : ν → β}

theorem view_of_get? {k : κ} {v : ν} (h : s.get? k = some v) : s.view f k = some (f v) := by
  rw [view, h]
  rfl

theorem view_eq_some {k : κ} {b : β} : s.view f k = some b ↔ ∃ v, s.get? k = some v ∧ f v = b :=
  Option.map_eq_some_iff

theorem view_put (k l : κ) (v : ν) :
    (s.put k v).view f l = if l = k then some (f v) else s.view f l := by
  unfold view
  rw [get?_put]
  split <;> rfl

/-- A value may be replaced by one with the same aspect. -/
theorem view_put_same {k : κ} {v v' : ν} (hk : s.get? k = some v) (same : f v' = f v) :
    (s.put k v').view f = s.view f := by
  funext l
  rw [view_put]
  by_cases hl : l = k
  · rw [if_pos hl, hl, same, view_of_get? hk]
  · rw [if_neg hl]

end View

/-! ## 3. Values that know their own key -/

def Keyed (s : Shelf κ ν) (key : ν → κ) : Prop := ∀ k v, s.get? k = some v → key v = k

theorem Keyed.empty (key : ν → κ) : (Shelf.empty : Shelf κ ν).Keyed key := by
  intro k v h
  cases h

theorem Keyed.put {s : Shelf κ ν} {key : ν → κ} (h : s.Keyed key) {k : κ} {v : ν}
    (hv : key v = k) : (s.put k v).Keyed key := by
  intro l w hl
  rw [get?_put] at hl
  by_cases hlk : l = k
  · rw [if_pos hlk] at hl
    cases hl
    rw [hlk, hv]
  · rw [if_neg hlk] at hl
    exact h l w hl

theorem Keyed.erase {s : Shelf κ ν} {key : ν → κ} (h : s.Keyed key) (k : κ) :
    (s.erase k).Keyed key := by
  intro l w hl
  rw [get?_erase] at hl
  by_cases hlk : l = k
  · rw [if_pos hlk] at hl
    cases hl
  · rw [if_neg hlk] at hl
    exact h l w hl

end Shelf

end AccessControl
