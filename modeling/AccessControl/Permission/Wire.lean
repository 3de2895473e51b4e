/-
  AccessControl/Permission/Wire.lean
  ==================================
  **Permissions, masks and grants as JSON values.**

  A permission is its name, in its exact letter case; a mask is the list of its five
  bits; a grant is a record.

  ## Main statements

  * `decode?_encode` of each: what is written reads back.
-/
import AccessControl.Identity.Wire
import AccessControl.Permission.Basic

namespace AccessControl

variable {σ : Type} [Scalar σ]

def Permission.encode (p : Permission) : Json := Json.text p.name

def Permission.decode? (d : Document σ) : Option Permission :=
  d.choice? (Permission.all.map fun p => (p.name, p))

theorem Permission.decode?_encode (p : Permission) : decode? p.encode = some p := by
  cases p <;> rfl

def Mask.encode (m : Mask) : Json := .list (m.bits.map Json.bool)

/-- The mask that a value stands for: a list of exactly five truth values. -/
def Mask.decode? (d : Document σ) : Option Mask := do
  let bits ← d.list? Document.flag?
  (Mask.ofBits bits).toOption

def AclEntry.encode (e : AclEntry) : Json :=
  .table [("id", e.id.encode), ("resource_id", e.resourceId.encode),
    ("party_id", e.partyId.encode), ("mask", e.mask.encode)]

def AclEntry.decode? (d : Document σ) : Option AclEntry := do
  let r ← d.record? ["id", "resource_id", "party_id", "mask"]
  return { id := ← r.required "id" ObjectId.decode?
           resourceId := ← r.required "resource_id" ObjectId.decode?
           partyId := ← r.required "party_id" ObjectId.decode?
           mask := ← r.required "mask" Mask.decode? }

theorem AclEntry.decode?_encode (e : AclEntry) : decode? e.encode = some e := rfl

end AccessControl
