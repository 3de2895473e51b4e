/-
  AccessControl/Store/Access.lean
  ===============================
  **Grants in the store.**

  There is at most one grant for a resource and a party.  It is made when the two are
  first connected, is changed in place after that, keeps its id while it exists, and
  is listed by both sides.

  ## Main definitions

  * `entryFor?`: the grant of a party on a resource;
  * `setAccess`, `addAccess`, `deleteAccess`.

  ## Main statements

  * `entryFor?_eq_some`: what is found connects the two.
-/
import AccessControl.Store.Basic

namespace AccessControl.Store

/-- The grant of a party on a resource. -/
def entryFor? (s : Store) (resourceId partyId : ObjectId) : Option AclEntry :=
  s.entries.values.find? fun e => e.resourceId == resourceId && e.partyId == partyId

/-- What is found connects the two. -/
theorem entryFor?_eq_some {s : Store} {resourceId partyId : ObjectId} {e : AclEntry}
    (h : s.entryFor? resourceId partyId = some e) :
    e ∈ s.entries.values ∧ e.resourceId = resourceId ∧ e.partyId = partyId := by
  have satisfied := List.find?_some h
  simp only [Bool.and_eq_true, beq_iff_eq] at satisfied
  exact ⟨List.mem_of_find?_eq_some h, satisfied⟩

def updateAccess (s : Store) (id resourceId partyId : ObjectId) (f : Mask → Mask) :
    Except Refusal (AclEntry × Store) := do
  let r ← s.resource resourceId
  let p ← s.party partyId
  match s.entryFor? resourceId partyId with
  | some e =>
    let e := { e with mask := f e.mask }
    return (e, { s with entries := s.entries.put e.id e })
  | none =>
    let e : AclEntry := ⟨id, resourceId, partyId, f Mask.none⟩
    return (e, { s with
      resources := s.resources.put resourceId (r.attach id)
      parties := s.parties.put partyId (p.attach id)
      entries := s.entries.put id e })

/-- A party gets exactly these permissions on a resource. -/
def setAccess (s : Store) (id resourceId partyId : ObjectId) (mask : Mask) :
    Except Refusal (AclEntry × Store) :=
  s.updateAccess id resourceId partyId fun _ => mask

/-- A party gets these permissions on a resource besides those that it has. -/
def addAccess (s : Store) (id resourceId partyId : ObjectId) (mask : Mask) :
    Except Refusal (AclEntry × Store) :=
  s.updateAccess id resourceId partyId fun held => held.union mask

/-- A party loses its grant on a resource. -/
def deleteAccess (s : Store) (resourceId partyId : ObjectId) : Except Refusal Store :=
  match s.entryFor? resourceId partyId with
  | none => .error (.noEntry resourceId)
  | some e =>
    .ok { s with
      entries := s.entries.erase e.id
      resources := match s.resources.get? resourceId with
        | some r => s.resources.put resourceId (r.detach e.id)
        | none => s.resources
      parties := match s.parties.get? partyId with
        | some p => s.parties.put partyId (p.detach e.id)
        | none => s.parties }

end AccessControl.Store
