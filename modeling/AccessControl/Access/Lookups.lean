/-
  AccessControl/Access/Lookups.lean
  =================================
  **What decisions are based on.**

  Decisions look things up by id, and any look-up may fail: because there is nothing
  with the id, or because whatever keeps the objects cannot be asked.  Everything
  that decides takes its look-ups as an argument, so that what is known about it
  holds for reliable and unreliable backends alike.

  ## Main definitions

  * `Lookups`: the four look-ups;
  * `Lookups.account`: the user with a login, for somebody who claims to be that user;
  * `Store.lookups`: the look-ups of a store.

  ## Main statements

  * `account_eq_ok`: an account is a user that was looked up.
-/
import AccessControl.Store.Basic

namespace AccessControl

/-- The look-ups that decisions are based on. -/
structure Lookups where
  resource : ObjectId → Except Failure Resource
  party : ObjectId → Except Failure Party
  entry : ObjectId → Except Failure AclEntry
  user : UserId → Except Failure User

namespace Lookups

/-- The user with a login.  That there is none is a matter of identity to somebody who
    claims the login. -/
def account (l : Lookups) (login : UserId) : Except Failure User :=
  match l.user login with
  | .ok u => .ok u
  | .error f => .error (if f.isNotFound then Failure.identityUnresolved login.value else f)

/-- An account is a user that was looked up. -/
theorem account_eq_ok {l : Lookups} {login : UserId} {u : User} :
    l.account login = .ok u ↔ l.user login = .ok u := by
  unfold account
  cases l.user login <;> simp

end Lookups

/-- The look-ups of a store. -/
def Store.lookups (s : Store) : Lookups where
  resource id := (s.resource id).mapError Refusal.failure
  party id := (s.party id).mapError Refusal.failure
  entry id := (s.entry id).mapError Refusal.failure
  user login := (s.user login).mapError Refusal.failure

end AccessControl
