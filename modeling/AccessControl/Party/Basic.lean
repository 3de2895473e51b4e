/-
  AccessControl/Party/Basic.lean
  ==============================
  **Parties: users and groups.**

  Users and groups belong to a realm and can be given permissions.  A user logs in
  with a name of its own, keeps the digest of a password, the groups it is in, in
  the order in which it joined them, and the history of its login attempts.  A
  group lists its users; groups are never members of groups.

  ## Main definitions

  * `PartyInfo`: what users and groups have in common;
  * `User`, `Group`, `Party`;
  * `User.recentFailures`: failed logins since a point in time and since the last
    success;
  * `Party.attach`, `Party.detach`: the grants to a party.
-/
import AccessControl.Identity.Basic
import AccessControl.Identity.Timestamp

namespace AccessControl

/-! ## 1. Users and groups -/

/-- What users and groups have in common. -/
structure PartyInfo where
  id : ObjectId
  name : String
  realmId : ObjectId
  createdAt : Timestamp
  active : Bool
  entryIds : List ObjectId
deriving DecidableEq, Repr

def PartyInfo.new (id : ObjectId) (now : Timestamp) (name : String) (realmId : ObjectId) :
    PartyInfo :=
  { id := id, name := name, realmId := realmId, createdAt := now, active := true, entryIds := [] }

structure LoginAttempt where
  time : Timestamp
  succeeded : Bool
deriving DecidableEq, Repr

structure User where
  info : PartyInfo
  userId : UserId
  passwordHash : String
  groupIds : List ObjectId
  attempts : List LoginAttempt
  eventIds : List ObjectId
deriving DecidableEq, Repr

/-- A group of users. -/
structure Group where
  info : PartyInfo
  description : Option String
  userIds : List ObjectId
deriving DecidableEq, Repr

namespace User

def new (info : PartyInfo) (userId : UserId) (passwordHash : String) : User :=
  { info := info, userId := userId, passwordHash := passwordHash, groupIds := [], attempts := [],
    eventIds := [] }

def attemptSeconds (u : User) : List Int := u.attempts.map fun a => a.time.seconds

def openFailures (u : User) : List LoginAttempt :=
  u.attempts.reverse.takeWhile fun a => !a.succeeded

/-- How many of the failures after the last success are not before a point in time. -/
def recentFailures (u : User) (since : Timestamp) : Nat :=
  u.openFailures.countP fun a => a.time.notBefore since

end User

def Group.new (info : PartyInfo) (description : Option String) : Group :=
  { info := info, description := description, userIds := [] }

/-! ## 2. Parties -/

inductive Party where
  | user (u : User)
  | group (g : Group)
deriving DecidableEq, Repr

namespace Party

def info : Party → PartyInfo
  | .user u => u.info
  | .group g => g.info

def id (p : Party) : ObjectId := p.info.id

def groupIds : Party → List ObjectId
  | .user u => u.groupIds
  | .group _ => []

def user? : Party → Option User
  | .user u => some u
  | .group _ => none

def withInfo (p : Party) (info : PartyInfo) : Party :=
  match p with
  | .user u => .user { u with info := info }
  | .group g => .group { g with info := info }

/-- The party with one more grant. -/
def attach (p : Party) (entry : ObjectId) : Party :=
  p.withInfo { p.info with entryIds := ObjectId.append p.info.entryIds entry }

/-- The party without a grant. -/
def detach (p : Party) (entry : ObjectId) : Party :=
  p.withInfo { p.info with entryIds := ObjectId.remove p.info.entryIds entry }

@[simp] theorem info_withInfo (p : Party) (info : PartyInfo) : (p.withInfo info).info = info := by
  cases p <;> rfl

@[simp] theorem groupIds_withInfo (p : Party) (info : PartyInfo) :
    (p.withInfo info).groupIds = p.groupIds := by cases p <;> rfl

end Party

end AccessControl
