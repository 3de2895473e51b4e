/-
  AccessControl/Access/Wire.lean
  ==============================
  **Decisions and their events as JSON values.**

  All fields are written, absent ones as null.  A reader may leave out the fields
  that only some answers have.

  ## Main statements

  * `decode?_encode` of each: what is written reads back.
-/
import AccessControl.Access.Decision
import AccessControl.Permission.Wire

namespace AccessControl

variable {σ : Type} [Scalar σ]

/-! ## 1. Grants -/

def GrantPath.encode (p : GrantPath) : Json := Json.text p.name

def GrantPath.decode? (d : Document σ) : Option GrantPath :=
  d.choice? (GrantPath.all.map fun p => (p.name, p))

theorem GrantPath.decode?_encode (p : GrantPath) : decode? p.encode = some p := by
  cases p <;> rfl

def Grant.encode (g : Grant) : Json :=
  .table [("party_id", g.partyId.encode), ("entry_id", g.entryId.encode),
    ("resource_id", g.resourceId.encode), ("path", g.path.encode)]

def Grant.decode? (d : Document σ) : Option Grant := do
  let r ← d.record? ["party_id", "entry_id", "resource_id", "path"]
  return { partyId := ← r.required "party_id" ObjectId.decode?
           entryId := ← r.required "entry_id" ObjectId.decode?
           resourceId := ← r.required "resource_id" ObjectId.decode?
           path := ← r.required "path" GrantPath.decode? }

theorem Grant.decode?_encode (g : Grant) : decode? g.encode = some g := by
  obtain ⟨party, entry, resource, path⟩ := g
  cases path <;> rfl

/-! ## 2. Answers and events -/

def Decision.encode (d : Decision) : Json :=
  .table [("allow", Json.bool d.allow),
    ("permission", Json.optional Permission.encode d.permission),
    ("grant", Json.optional Grant.encode d.grant), ("reason", Json.optional Json.text d.reason)]

def Decision.decode? (d : Document σ) : Option Decision := do
  let r ← d.record? ["allow", "permission", "grant", "reason"]
  return { allow := ← r.required "allow" Document.flag?
           permission := ← r.optional "permission" Permission.decode?
           grant := ← r.orElse "grant" none (Document.optional? Grant.decode?)
           reason := ← r.orElse "reason" none (Document.optional? Document.text?) }

theorem Decision.decode?_encode (d : Decision) : decode? d.encode = some d := by
  have permission := Json.optional?_optional Permission.decode?_encode
    (fun p => by simp [Permission.encode]) d.permission
  have grant := Json.optional?_optional Grant.decode?_encode
    (fun g => by simp [Grant.encode]) d.grant
  have reason := Json.optional?_text d.reason
  simp [decode?, encode, Document.record?, Record.required, Record.optional, Record.orElse,
    Record.lookup_cons_of_ne, Document.flag?, Scalar.flag?, permission, grant, reason]

def DecisionEvent.encode (e : DecisionEvent) : Json :=
  .table [("user_id", e.userId.encode), ("resource_id", e.resourceId.encode),
    ("action", Json.optional Permission.encode e.action), ("allow", Json.bool e.allow),
    ("path", Json.optional GrantPath.encode e.path),
    ("granting_party", Json.optional ObjectId.encode e.grantingParty)]

def DecisionEvent.decode? (d : Document σ) : Option DecisionEvent := do
  let r ← d.record? ["user_id", "resource_id", "action", "allow", "path", "granting_party"]
  return { userId := ← r.required "user_id" UserId.decode?
           resourceId := ← r.required "resource_id" ObjectId.decode?
           action := ← r.optional "action" Permission.decode?
           allow := ← r.required "allow" Document.flag?
           path := ← r.orElse "path" none (Document.optional? GrantPath.decode?)
           grantingParty := ← r.orElse "granting_party" none (Document.optional? ObjectId.decode?) }

theorem DecisionEvent.decode?_encode (e : DecisionEvent) : decode? e.encode = some e := by
  have action := Json.optional?_optional Permission.decode?_encode
    (fun p => by simp [Permission.encode]) e.action
  have path := Json.optional?_optional GrantPath.decode?_encode
    (fun p => by simp [GrantPath.encode]) e.path
  have party := Json.optional?_optional ObjectId.decode?_encode
    (fun i => by simp [ObjectId.encode]) e.grantingParty
  simp [decode?, encode, Document.record?, Record.required, Record.optional, Record.orElse,
    Record.lookup_cons_of_ne, Document.flag?, Document.text?, Scalar.flag?, Scalar.text?,
    UserId.encode, UserId.decode?, ObjectId.decode?_encode, action, path, party]

end AccessControl
