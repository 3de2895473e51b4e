/-
  AccessControl/Party/View.lean
  =============================
  **Parties as JSON values.**

  Users and groups are records, and a party is the record of either with a tag.  A
  party is shown with what users and groups have in common; a user also with the times
  of its login attempts, and how many recent failures there are from given points in
  time on.

  ## Main definitions

  * `User.encode`, `User.decode?`, `Group.encode`, `Group.decode?`;
  * `Party.encode`, `Party.decode?`; `LoginAttempt.encode`, `LoginAttempt.decode?`;
  * `Party.view`, `User.history`: the entries that show a party.

  ## Main statements

  * `User.decode?_encode`, `Group.decode?_encode`, `Party.decode?_encode`: what is
    written reads back.
-/
import AccessControl.Identity.Wire
import AccessControl.Json.Draft
import AccessControl.Party.Basic

namespace AccessControl

variable {σ : Type} [Scalar σ]

/-! ## 1. Parts -/

def LoginAttempt.encode (a : LoginAttempt) : Json :=
  .table [("at", a.time.encode), ("succeeded", Json.bool a.succeeded)]

def LoginAttempt.decode? (d : Document σ) : Option LoginAttempt := do
  let r ← d.record? ["at", "succeeded"]
  return { time := ← r.required "at" Timestamp.decode?
           succeeded := ← r.required "succeeded" Document.flag? }

/-- What users and groups have in common, as a value. -/
def PartyInfo.encode (i : PartyInfo) : Json :=
  .table [("id", i.id.encode), ("name", Json.text i.name), ("realm_id", i.realmId.encode),
    ("created_at", i.createdAt.encode), ("active", Json.bool i.active),
    ("acl_entry_ids", ObjectId.encodeAll i.entryIds)]

def PartyInfo.decode? (d : Document σ) : Option PartyInfo := do
  let r ← d.record? ["id", "name", "realm_id", "created_at", "active", "acl_entry_ids"]
  return { id := ← r.required "id" ObjectId.decode?
           name := ← r.required "name" Document.text?
           realmId := ← r.required "realm_id" ObjectId.decode?
           createdAt := ← r.required "created_at" Timestamp.decode?
           active := ← r.required "active" Document.flag?
           entryIds := ← r.orElse "acl_entry_ids" [] ObjectId.decodeAll? }

/-! ## 2. Users, groups, parties -/

def User.entries (u : User) : List (String × Json) :=
  [("common", u.info.encode), ("user_id", u.userId.encode),
   ("password_hash", Json.text u.passwordHash), ("group_ids", ObjectId.encodeAll u.groupIds),
   ("login_attempts", .list (u.attempts.map LoginAttempt.encode)),
   ("event_ids", ObjectId.encodeAll u.eventIds)]

def User.encode (u : User) : Json := .table u.entries

def User.decode? (d : Document σ) : Option User := do
  let r ← d.record?
    ["common", "user_id", "password_hash", "group_ids", "login_attempts", "event_ids"]
  return { info := ← r.required "common" PartyInfo.decode?
           userId := ← r.required "user_id" UserId.decode?
           passwordHash := ← r.required "password_hash" Document.text?
           groupIds := ← r.orElse "group_ids" [] ObjectId.decodeAll?
           attempts := ← r.orElse "login_attempts" [] (Document.list? LoginAttempt.decode?)
           eventIds := ← r.orElse "event_ids" [] ObjectId.decodeAll? }

def Group.entries (g : Group) : List (String × Json) :=
  [("common", g.info.encode), ("description", Json.optionalText g.description),
   ("user_ids", ObjectId.encodeAll g.userIds)]

def Group.encode (g : Group) : Json := .table g.entries

def Group.decode? (d : Document σ) : Option Group := do
  let r ← d.record? ["common", "description", "user_ids"]
  return { info := ← r.required "common" PartyInfo.decode?
           description := ← r.optional "description" Document.text?
           userIds := ← r.orElse "user_ids" [] ObjectId.decodeAll? }

/-- A party as a value, its tag first. -/
def Party.encode : Party → Json
  | .user u => .table (("type", Json.text "user") :: u.entries)
  | .group g => .table (("type", Json.text "group") :: g.entries)

/-- The party that a value stands for.  All of the value has to be readable, since the tag
    may stand anywhere in it. -/
def Party.decode? {σ : Type} [JsonLeaf σ] (d : Document σ) : Option Party := do
  let (tag, content) ← (← d.json?).tagged?
  match tag with
  | "user" => (User.decode? content).map .user
  | "group" => (Group.decode? content).map .group
  | _ => none

/-! ## 3. Round trips -/

theorem LoginAttempt.decode?_encode (a : LoginAttempt) : decode? a.encode = some a := by
  simp [decode?, encode, Document.record?, Record.required, Record.lookup_cons_of_ne,
    Document.flag?, Scalar.flag?, Timestamp.decode?_encode]

theorem PartyInfo.decode?_encode (i : PartyInfo) : decode? i.encode = some i := by
  simp [decode?, encode, Document.record?, Record.required, Record.orElse, Record.lookup_cons_of_ne,
    Document.text?, Document.flag?, Scalar.text?, Scalar.flag?, ObjectId.decode?_encode,
    Timestamp.decode?_encode, ObjectId.decodeAll?_encodeAll]

theorem User.decode?_encode (u : User) : decode? u.encode = some u := by
  simp [decode?, encode, entries, Document.record?, Record.required, Record.orElse,
    Record.lookup_cons_of_ne, Document.text?, Scalar.text?, UserId.encode, UserId.decode?,
    PartyInfo.decode?_encode, Document.list?_map LoginAttempt.decode?_encode,
    ObjectId.decodeAll?_encodeAll]

theorem Group.decode?_encode (g : Group) : decode? g.encode = some g := by
  obtain ⟨info, description, userIds⟩ := g
  cases description <;>
    simp [decode?, encode, entries, Document.record?, Record.required, Record.optional,
      Record.orElse, Record.lookup_cons_of_ne, Document.text?, Document.optional?, Scalar.text?,
      Scalar.absent?, Json.optionalText, PartyInfo.decode?_encode, ObjectId.decodeAll?_encodeAll]

theorem Party.decode?_encode (p : Party) : decode? p.encode = some p := by
  cases p with
  | user u =>
    have fields : User.decode? (.table u.entries) = some u := User.decode?_encode u
    simp only [decode?, encode, Document.json?_eq_some, Option.bind_eq_bind, Option.bind_some]
    rw [Document.tagged?_cons rfl (by simp [User.entries])]
    simp [fields]
  | group g =>
    have fields : Group.decode? (.table g.entries) = some g := Group.decode?_encode g
    simp only [decode?, encode, Document.json?_eq_some, Option.bind_eq_bind, Option.bind_some]
    rw [Document.tagged?_cons rfl (by simp [Group.entries])]
    simp [fields]

/-! ## 4. What is shown -/

/-- The entries that show the login history of a user. -/
def User.history (u : User) (since : List Timestamp) : List (String × Json) :=
  [("attempt_seconds", .list (u.attemptSeconds.map Json.int)),
   ("recent_failures", .list (since.map fun t => Json.int (u.recentFailures t)))]

/-- The entries that show a party. -/
def Party.view (p : Party) (since : List Timestamp) : List (String × Json) :=
  [("id", p.id.encode), ("name", Json.text p.info.name), ("realm_id", p.info.realmId.encode),
   ("active", Json.bool p.info.active), ("acl_entry_ids", ObjectId.encodeAll p.info.entryIds),
   ("group_ids", ObjectId.encodeAll p.groupIds), ("is_user", Json.bool p.user?.isSome),
   ("is_group", Json.bool p.user?.isNone), ("party", p.encode)]
    ++ match p.user? with
      | some u => u.history since
      | none => []

end AccessControl
