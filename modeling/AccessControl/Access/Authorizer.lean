/-
  AccessControl/Access/Authorizer.lean
  ====================================
  **Who may do what.**

  A user may do everything to its own account.  For anything else a grant is needed:
  one that the user holds, or else one that a group of the user holds, the groups in
  the order of joining.  Of each holder the grants on the resource count first, then
  those on its parent; what stands above the parent does not count.

  All grants of a holder are looked up before any is considered, and a group is looked
  up only when no holder before it settles the question.  A look-up that fails is a
  failure to decide, and no denial.

  ## Main definitions

  * `grantAmong?`: the first grant of a row that gives a permission on a resource;
  * `Lookups.grantOf`: the grant of one holder;
  * `Lookups.firstGrant`: the grant that settles a question, over all holders;
  * `Lookups.decision`: the answer to a question.

  ## Main statements

  * `grantAmong?_eq_some`: what is found gives the permission.
-/
import AccessControl.Access.Decision
import AccessControl.Access.Lookups

namespace AccessControl

/-- The first grant of a row that gives a permission on a resource. -/
def grantAmong? (entries : List AclEntry) (resource : ObjectId) (p : Permission) :
    Option AclEntry :=
  entries.find? fun e => e.grants resource p

/-- What is found is one of the grants, and gives the permission on the resource. -/
theorem grantAmong?_eq_some {entries : List AclEntry} {resource : ObjectId} {p : Permission}
    {e : AclEntry} (h : grantAmong? entries resource p = some e) :
    e ∈ entries ∧ e.grants resource p = true :=
  ⟨List.mem_of_find?_eq_some h,
    List.find?_some (p := fun e : AclEntry => e.grants resource p) h⟩

namespace Lookups

/-- The grant of a holder that gives a permission on a resource, or on its parent. -/
def grantOf (l : Lookups) (p : Permission) (resource : Resource) (holder : Party) :
    Except Failure (Option Grant) := do
  let entries ← holder.info.entryIds.mapM l.entry
  match grantAmong? entries resource.id p with
  | some e => return some ⟨holder.id, e.id, resource.id, .direct⟩
  | none =>
    match resource.parentId with
    | none => return none
    | some parentId =>
      let parent ← l.resource parentId
      return (grantAmong? entries parent.id p).map fun e => ⟨holder.id, e.id, parent.id, .parent⟩

/-- The grant that settles a question: that of a first holder, or of the groups after
    it. -/
def firstGrant (l : Lookups) (p : Permission) (resource : Resource) (holder : Party) :
    List ObjectId → Except Failure (Option Grant)
  | [] => grantOf l p resource holder
  | groupId :: rest => do
    match ← grantOf l p resource holder with
    | some g => return some g
    | none => firstGrant l p resource (← l.party groupId) rest

def decisionOn (l : Lookups) (login : UserId) (p : Permission) (resourceId : ObjectId) :
    Except Failure Decision := do
  let user ← l.account login
  if user.info.id = resourceId then return .ownAccount p
  let resource ← l.resource resourceId
  match ← firstGrant l p resource (.user user) user.groupIds with
  | some g => return .granted p g
  | none => return .denied p

/-- Whether the user with a login may do what a mask asks for, which has to be one
    thing. -/
def decision (l : Lookups) (login : UserId) (mask : Mask) (resourceId : ObjectId) :
    Except Failure Decision :=
  match mask.singleAction with
  | .ok p => l.decisionOn login p resourceId
  | .error (.notSingle 0) => .ok .noAction
  | .error fault => .error (Failure.invalidMask fault.message)

end Lookups

end AccessControl
