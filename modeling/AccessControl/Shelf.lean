/-
  AccessControl/Shelf.lean
  ========================
  **Shelves: values under keys, in the order in which they came.**

  Everything that is stored is stored under a key: resources, parties and grants
  under their ids, users also under their logins, sessions under session ids.  A
  shelf has each key once.  A value that is put under a key that is in use takes the
  place of the old one; a new key goes to the end.

  ## Main definitions

  * `Shelf κ ν`, `Shelf.empty`, `get?`, `put`, `erase`, `keep`;
  * `keys`, `values`, `size`.

  ## Main statements

  * `get?_put`, `get?_erase`, `get?_keep`: what is found after each operation;
  * `keys_erase`: which keys are left, and in which order;
  * `mem_keys`: the keys are those under which something is found.
-/

namespace AccessControl

/-- Values under keys, each key once, in the order in which the keys came. -/
structure Shelf (κ ν : Type) where
  entries : List (κ × ν)
  distinct : (entries.map Prod.fst).Nodup
deriving DecidableEq

namespace Shelf

variable {κ ν : Type}

/-- The keys, in the order in which they came. -/
def keys (s : Shelf κ ν) : List κ := s.entries.map Prod.fst

def values (s : Shelf κ ν) : List ν := s.entries.map Prod.snd

def size (s : Shelf κ ν) : Nat := s.entries.length

def empty : Shelf κ ν := ⟨[], List.nodup_nil⟩

/-- The values that satisfy a condition. -/
def keep (s : Shelf κ ν) (p : κ × ν → Bool) : Shelf κ ν :=
  ⟨s.entries.filter p, s.distinct.sublist (List.filter_sublist.map Prod.fst)⟩

theorem ext_entries {s t : Shelf κ ν} (h : s.entries = t.entries) : s = t := by
  cases s; cases t; simpa using h

variable [DecidableEq κ]

def get? (s : Shelf κ ν) (k : κ) : Option ν := s.entries.lookup k

def putEntry (k : κ) (v : ν) : List (κ × ν) → List (κ × ν)
  | [] => [(k, v)]
  | (l, w) :: rest => if l = k then (k, v) :: rest else (l, w) :: putEntry k v rest

theorem map_fst_putEntry (k : κ) (v : ν) (es : List (κ × ν)) :
    (putEntry k v es).map Prod.fst
      = if k ∈ es.map Prod.fst then es.map Prod.fst else es.map Prod.fst ++ [k] := by
  induction es with
  | nil => simp [putEntry]
  | cons e rest ih =>
    obtain ⟨l, w⟩ := e
    by_cases h : l = k
    · simp [putEntry, h]
    · simp only [putEntry, if_neg h, List.map_cons, ih, List.mem_cons, Ne.symm h, false_or]
      split <;> simp

/-- The shelf with a value under a key. -/
def put (s : Shelf κ ν) (k : κ) (v : ν) : Shelf κ ν :=
  ⟨putEntry k v s.entries, by
    rw [map_fst_putEntry]
    split
    · exact s.distinct
    · next fresh =>
      refine List.nodup_append.2 ⟨s.distinct, by simp, fun a ha b hb => ?_⟩
      simp only [List.mem_singleton] at hb
      exact fun e => fresh (hb ▸ e ▸ ha)⟩

def erase (s : Shelf κ ν) (k : κ) : Shelf κ ν := s.keep fun e => e.1 != k

/-! ## What is found -/

theorem get?_put (s : Shelf κ ν) (k l : κ) (v : ν) :
    (s.put k v).get? l = if l = k then some v else s.get? l := by
  show (putEntry k v s.entries).lookup l = if l = k then some v else s.entries.lookup l
  induction s.entries with
  | nil =>
    by_cases h : l = k
    · simp [putEntry, h]
    · have : (l == k) = false := by simp [h]
      simp [putEntry, List.lookup_cons, h, this]
  | cons e rest ih =>
    obtain ⟨m, w⟩ := e
    by_cases hm : m = k
    · subst hm
      by_cases h : l = m
      · simp [putEntry, h]
      · have : (l == m) = false := by simp [h]
        simp [putEntry, List.lookup_cons, h, this]
    · by_cases h : l = m
      · subst h
        simp [putEntry, hm]
      · have : (l == m) = false := by simp [h]
        simp only [putEntry, if_neg hm, List.lookup_cons, this, ih]

@[simp] theorem get?_put_self (s : Shelf κ ν) (k : κ) (v : ν) : (s.put k v).get? k = some v := by
  simp [get?_put]

/-- A key is in use exactly when something is found under it. -/
theorem mem_keys {s : Shelf κ ν} {k : κ} : k ∈ s.keys ↔ (s.get? k).isSome = true := by
  show k ∈ s.entries.map Prod.fst ↔ (s.entries.lookup k).isSome = true
  induction s.entries with
  | nil => simp
  | cons e rest ih =>
    obtain ⟨m, w⟩ := e
    by_cases h : k = m
    · simp [h]
    · have : (k == m) = false := by simp [h]
      simp only [List.map_cons, List.mem_cons, h, false_or, List.lookup_cons, this, ih]

theorem get?_eq_some {s : Shelf κ ν} {k : κ} {v : ν} :
    s.get? k = some v ↔ (k, v) ∈ s.entries := by
  obtain ⟨entries, distinct⟩ := s
  show entries.lookup k = some v ↔ (k, v) ∈ entries
  induction entries with
  | nil => simp
  | cons e rest ih =>
    obtain ⟨m, w⟩ := e
    rw [List.map_cons, List.nodup_cons] at distinct
    by_cases h : k = m
    · subst h
      have absent : (k, v) ∉ rest := fun hv =>
        distinct.1 (List.mem_map.2 ⟨(k, v), hv, rfl⟩)
      simp [absent, eq_comm]
    · have : (k == m) = false := by simp [h]
      simp only [List.lookup_cons, this, ih distinct.2, List.mem_cons, Prod.mk.injEq, h, false_and,
        false_or]

/-- Of what is found, the values that satisfy the condition are found afterwards. -/
theorem get?_keep (s : Shelf κ ν) (p : κ × ν → Bool) (k : κ) :
    (s.keep p).get? k = (s.get? k).filter fun v => p (k, v) := by
  apply Option.ext
  intro v
  rw [Option.filter_eq_some_iff, get?_eq_some, get?_eq_some]
  simp [keep]

theorem get?_erase (s : Shelf κ ν) (k l : κ) :
    (s.erase k).get? l = if l = k then none else s.get? l := by
  rw [erase, get?_keep]
  by_cases h : l = k
  · simp [h]
  · cases hl : s.get? l <;> simp [h]

@[simp] theorem get?_erase_self (s : Shelf κ ν) (k : κ) : (s.erase k).get? k = none := by
  simp [get?_erase]

/-! ## Which keys there are -/

theorem keys_erase (s : Shelf κ ν) (k : κ) : (s.erase k).keys = s.keys.filter (· != k) := by
  simp only [erase, keep, keys, List.filter_map]
  rfl

end Shelf

end AccessControl
