/-
  AccessControl/Permission/Basic.lean
  ===================================
  **Permissions, sets of them, and grants.**

  There are five permissions, in a fixed order, and none implies another.  A mask is
  a set of permissions; written down it is the row of its five bits.  A request for
  a decision names its action by a mask with exactly one bit.  An entry of an access
  list gives one party a mask on one resource.

  ## Main definitions

  * `Permission`, `Permission.named?`: the permissions, and reading a name;
  * `Mask`, `Mask.contains`: sets of permissions;
  * `Mask.insert`, `Mask.union`, `Mask.of`, `Mask.ofBits`: building sets;
  * `Mask.singleAction`: the only permission of a set with one;
  * `MaskError`: what can be wrong with a mask or a name;
  * `AclEntry`, `AclEntry.grants`: whether an entry gives a permission on a resource.

  ## Main statements

  * `Mask.ext`: a mask is known from what it contains;
  * `contains_insert`, `contains_union`, `contains_of`: what the built sets contain;
  * `singleAction_single`: the action of a set made of one permission.
-/
import AccessControl.Identity.Basic
import AccessControl.Text.White

namespace AccessControl

/-! ## 1. Permissions -/

/-- What a party may be allowed to do with a resource. -/
inductive Permission where
  | create | read | write | execute | delete
deriving DecidableEq, Repr, Inhabited

/-- What can be wrong with a mask, or with the name of a permission. -/
inductive MaskError where
  | wrongWidth (actual : Nat)
  | notSingle (count : Nat)
  | unknownPermission (name : String)
deriving DecidableEq, Repr

def MaskError.message : MaskError → String
  | .wrongWidth actual => s!"permission mask must have 5 elements, got {actual}"
  | .notSingle count => s!"exactly one action must be requested, mask has {count} set"
  | .unknownPermission name => s!"unknown permission '{name}'"

namespace Permission

def all : List Permission := [.create, .read, .write, .execute, .delete]

def name : Permission → String
  | .create => "Create"
  | .read => "Read"
  | .write => "Write"
  | .execute => "Execute"
  | .delete => "Delete"

def lowerName : Permission → String
  | .create => "create"
  | .read => "read"
  | .write => "write"
  | .execute => "execute"
  | .delete => "delete"

def index : Permission → Nat
  | .create => 0
  | .read => 1
  | .write => 2
  | .execute => 3
  | .delete => 4

/-- The permission with a name, in any letter case and with white space around it. -/
def named? (text : String) : Except MaskError Permission :=
  match all.find? fun p => Text.sameIgnoringCase p.name.toList (Text.trim text.toList) with
  | some p => .ok p
  | none => .error (.unknownPermission text)

theorem mem_all (p : Permission) : p ∈ all := by cases p <;> decide

end Permission

/-! ## 2. Masks -/

/-- A set of permissions. -/
structure Mask where
  (create read write execute delete : Bool)
deriving DecidableEq, Repr

namespace Mask

def contains (m : Mask) : Permission → Bool
  | .create => m.create
  | .read => m.read
  | .write => m.write
  | .execute => m.execute
  | .delete => m.delete

/-- A mask is known from what it contains. -/
theorem ext {m n : Mask} (h : ∀ p, m.contains p = n.contains p) : m = n := by
  obtain ⟨a, b, c, d, e⟩ := m
  obtain ⟨a', b', c', d', e'⟩ := n
  have h1 : a = a' := h .create
  have h2 : b = b' := h .read
  have h3 : c = c' := h .write
  have h4 : d = d' := h .execute
  have h5 : e = e' := h .delete
  subst h1 h2 h3 h4 h5
  rfl

def none : Mask := ⟨false, false, false, false, false⟩

def full : Mask := ⟨true, true, true, true, true⟩

/-- The set with one more permission. -/
def insert (m : Mask) : Permission → Mask
  | .create => { m with create := true }
  | .read => { m with read := true }
  | .write => { m with write := true }
  | .execute => { m with execute := true }
  | .delete => { m with delete := true }

def union (m n : Mask) : Mask :=
  ⟨m.create || n.create, m.read || n.read, m.write || n.write, m.execute || n.execute,
   m.delete || n.delete⟩

def single (p : Permission) : Mask := none.insert p

/-- The set of the listed permissions. -/
def of (ps : List Permission) : Mask := ps.foldl insert none

def bits (m : Mask) : List Bool := [m.create, m.read, m.write, m.execute, m.delete]

/-- The set with five given bits. -/
def ofBits : List Bool → Except MaskError Mask
  | [a, b, c, d, e] => .ok ⟨a, b, c, d, e⟩
  | bits => .error (.wrongWidth bits.length)

def permissions (m : Mask) : List Permission := Permission.all.filter m.contains

def count (m : Mask) : Nat := m.bits.count true

/-- The only permission of the set. -/
def singleAction (m : Mask) : Except MaskError Permission :=
  match m.permissions with
  | [p] => .ok p
  | _ => .error (.notSingle m.count)

def text (m : Mask) : String :=
  "[" ++ String.intercalate "," (m.permissions.map Permission.name) ++ "]"

/-! ## 3. What masks contain -/

@[simp] theorem contains_none (p : Permission) : none.contains p = false := by cases p <;> rfl

@[simp] theorem contains_insert (m : Mask) (p q : Permission) :
    (m.insert p).contains q = (decide (p = q) || m.contains q) := by
  cases p <;> cases q <;> simp [insert, contains]

@[simp] theorem contains_union (m n : Mask) (p : Permission) :
    (m.union n).contains p = (m.contains p || n.contains p) := by cases p <;> rfl

@[simp] theorem contains_single (p q : Permission) :
    (single p).contains q = decide (p = q) := by simp [single]

@[simp] theorem contains_of (ps : List Permission) (q : Permission) :
    (of ps).contains q = decide (q ∈ ps) := by
  have gather : ∀ (ps : List Permission) (m : Mask),
      (ps.foldl insert m).contains q = (m.contains q || decide (q ∈ ps)) := by
    intro ps
    induction ps with
    | nil => simp
    | cons p ps ih =>
      intro m
      rw [List.foldl_cons, ih, contains_insert]
      by_cases h : p = q
      · simp [h]
      · simp [h, Ne.symm h]
  simpa [of] using gather ps none

theorem ofBits_bits (m : Mask) : ofBits m.bits = .ok m := rfl

theorem ofBits_eq_ok {bits : List Bool} {m : Mask} (h : ofBits bits = .ok m) : bits = m.bits := by
  unfold ofBits at h
  split at h
  · cases h; rfl
  · cases h

theorem ofBits_eq_error {bits : List Bool} {e : MaskError} (h : ofBits bits = .error e) :
    e = .wrongWidth bits.length ∧ bits.length ≠ 5 := by
  unfold ofBits at h
  split at h
  · cases h
  · next hne =>
    cases h
    refine ⟨rfl, fun hl => ?_⟩
    match bits, hl with
    | [a, b, c, d, e], _ => exact hne a b c d e rfl

theorem mem_permissions {m : Mask} {p : Permission} :
    p ∈ m.permissions ↔ m.contains p = true := by
  simp [permissions, Permission.mem_all]

/-- The action of a set made of one permission. -/
theorem singleAction_single (p : Permission) : (single p).singleAction = .ok p := by
  cases p <;> rfl

theorem singleAction_eq_ok {m : Mask} {p : Permission} :
    m.singleAction = .ok p ↔ m = single p := by
  constructor
  · intro h
    unfold singleAction at h
    split at h
    · next q hq =>
      cases h
      refine ext fun r => Bool.eq_iff_iff.2 ?_
      rw [← mem_permissions, hq]
      simp [eq_comm]
    · cases h
  · rintro rfl
    exact singleAction_single p

end Mask

/-! ## 4. Grants -/

/-- One party's permissions on one resource. -/
structure AclEntry where
  id : ObjectId
  resourceId : ObjectId
  partyId : ObjectId
  mask : Mask
deriving DecidableEq, Repr

/-- The entry is about the resource and holds the permission. -/
def AclEntry.grants (e : AclEntry) (resource : ObjectId) (p : Permission) : Bool :=
  e.resourceId == resource && e.mask.contains p

end AccessControl
