/-
  AccessControl/Access/Decision.lean
  ==================================
  **Decisions: the answer to one access question, and its record.**

  A question is whether a user may do one thing to one resource.  The answer says
  yes or no, which permission was asked for, and why: either the grant that settled
  it, and where that grant sits, or a reason in words.  An event is what an auditor
  keeps of a question and its answer.

  ## Main definitions

  * `GrantPath`, `Grant`: the grant that settled a question;
  * `Decision` and its four forms `ownAccount`, `granted`, `denied`, `noAction`;
  * `DecisionEvent.of`: the record of a decision.

  ## Main statements

  * `allow_granted`, `allow_denied`, …: which forms allow.
-/
import AccessControl.Permission.Basic
import AccessControl.Identity.Basic

namespace AccessControl

/-! ## 1. The grant behind an answer -/

/-- Where a grant sits, seen from the resource that was asked about. -/
inductive GrantPath where
  | direct
  | parent
deriving DecidableEq, Repr

def GrantPath.name : GrantPath → String
  | .direct => "Direct"
  | .parent => "Parent"

def GrantPath.all : List GrantPath := [.direct, .parent]

/-- The grant that settled a question. -/
structure Grant where
  partyId : ObjectId
  entryId : ObjectId
  /-- The resource that the grant is on: the one asked about, or its parent. -/
  resourceId : ObjectId
  path : GrantPath
deriving DecidableEq, Repr

/-! ## 2. Answers -/

/-- The answer to an access question. -/
structure Decision where
  allow : Bool
  permission : Option Permission
  grant : Option Grant
  reason : Option String
deriving DecidableEq, Repr

namespace Decision

/-- Users may do everything to their own account. -/
def ownAccount (p : Permission) : Decision := ⟨true, some p, none, some "own-account"⟩

/-- A grant gives the permission. -/
def granted (p : Permission) (g : Grant) : Decision := ⟨true, some p, some g, none⟩

/-- No grant gives the permission. -/
def denied (p : Permission) : Decision := ⟨false, some p, none, some "no-matching-grant"⟩

/-- Who asks for nothing is granted nothing. -/
def noAction : Decision := ⟨false, none, none, some "no-action-requested"⟩

@[simp] theorem allow_ownAccount (p : Permission) : (ownAccount p).allow = true := rfl
@[simp] theorem allow_granted (p : Permission) (g : Grant) : (granted p g).allow = true := rfl
@[simp] theorem allow_denied (p : Permission) : (denied p).allow = false := rfl
@[simp] theorem allow_noAction : noAction.allow = false := rfl

end Decision

/-! ## 3. Events -/

structure DecisionEvent where
  userId : UserId
  resourceId : ObjectId
  action : Option Permission
  allow : Bool
  path : Option GrantPath
  grantingParty : Option ObjectId
deriving DecidableEq, Repr

/-- The record of a decision about a user and a resource. -/
def DecisionEvent.of (user : UserId) (resource : ObjectId) (d : Decision) : DecisionEvent :=
  { userId := user
    resourceId := resource
    action := d.permission
    allow := d.allow
    path := d.grant.map Grant.path
    grantingParty := d.grant.map Grant.partyId }

end AccessControl
