/-
  AccessControl/Identity/Basic.lean
  =================================
  **Ids, credentials and session tokens.**

  An object id names a stored object, a user id is what a person logs in with, and
  a session id is the bearer value of a session.  All three are texts, and none is
  ever taken for another.

  ## Main definitions

  * `ObjectId`, `UserId`, `SessionId`;
  * `Credentials`, `SessionToken`, and `validate` of each: no empty ids;
  * `Credentials.shown`: credentials for a log, without the password.
-/
import AccessControl.Text.Quoted

namespace AccessControl

/-- The id of a stored object: a party, a resource, a grant or an event. -/
structure ObjectId where
  value : String
deriving DecidableEq, Repr, Inhabited

/-- The ids with one more at the end, unless it is among them. -/
def ObjectId.append (ids : List ObjectId) (id : ObjectId) : List ObjectId :=
  if id ∈ ids then ids else ids ++ [id]

def ObjectId.remove (ids : List ObjectId) (id : ObjectId) : List ObjectId :=
  ids.filter fun i => i != id

@[simp] theorem ObjectId.mem_append {ids : List ObjectId} {id i : ObjectId} :
    i ∈ ObjectId.append ids id ↔ i ∈ ids ∨ i = id := by
  unfold ObjectId.append
  split
  · next h => exact ⟨Or.inl, fun e => e.elim (fun e => e) fun e => e ▸ h⟩
  · simp

theorem ObjectId.nodup_append {ids : List ObjectId} (h : ids.Nodup) (id : ObjectId) :
    (ObjectId.append ids id).Nodup := by
  unfold ObjectId.append
  split
  · exact h
  · next hid =>
    refine List.nodup_append.2 ⟨h, by simp, fun a ha b hb => ?_⟩
    simp only [List.mem_singleton] at hb
    exact fun e => hid (hb ▸ e ▸ ha)

@[simp] theorem ObjectId.mem_remove {ids : List ObjectId} {id i : ObjectId} :
    i ∈ ObjectId.remove ids id ↔ i ∈ ids ∧ i ≠ id := by
  simp [ObjectId.remove]

/-- The login name that a user authenticates with. -/
structure UserId where
  value : String
deriving DecidableEq, Repr, Inhabited

/-- The opaque value that a session is carried by. -/
structure SessionId where
  value : String
deriving DecidableEq, Repr, Inhabited

/-- What a caller presents to log in. -/
structure Credentials where
  userId : UserId
  password : String
deriving DecidableEq, Repr

/-- A live session id with the user it was minted for. -/
structure SessionToken where
  sessionId : SessionId
  userId : UserId
deriving DecidableEq, Repr

inductive EmptyField where
  | sessionId
  | userId
deriving DecidableEq, Repr

def EmptyField.message : EmptyField → String
  | .sessionId => "empty_field:session_id"
  | .userId => "empty_field:user_id"

/-- Credentials need a user id; the password may be empty. -/
def Credentials.validate (c : Credentials) : Except EmptyField Unit :=
  if c.userId.value = "" then .error .userId else .ok ()

/-- A token needs a session id and a user id. -/
def SessionToken.validate (t : SessionToken) : Except EmptyField Unit :=
  if t.sessionId.value = "" then .error .sessionId
  else if t.userId.value = "" then .error .userId
  else .ok ()

/-- Credentials for a log: the user id in quotes, the password never. -/
def Credentials.shown (c : Credentials) : String :=
  "Credentials \x7b user_id: UserId(" ++ Text.quoted c.userId.value
    ++ "), password: \"<redacted>\" \x7d"

end AccessControl
