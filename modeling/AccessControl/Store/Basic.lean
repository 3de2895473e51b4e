/-
  AccessControl/Store/Basic.lean
  ==============================
  **The store of resources, parties and grants.**

  The store keeps every object under its id, and the id of every user also under the
  user's login.  Objects that refer to each other do so by id: a parent lists its
  children, a realm its users and groups, a resource and a party the grants that they
  have part in.

  An operation that touches several objects does so at once, or is refused and does
  nothing.  A store refuses what would break its rules: names that are taken, resources
  in the wrong place, memberships across realms, and ids of nothing.

  The ids of new objects, and the time, are given by the caller.

  ## Main definitions

  * `Refusal`, `Refusal.failure`: why a store refuses, and the failure that a client gets;
  * `Store`, `Store.empty`, and what is found in it: `resource`, `party`, `entry`,
    `user`;
  * `createRealm`, `createResource`, `createRepository`, `createUser`, `createGroup`,
    `addUserToGroup`, `recordAttempt`.
-/
import AccessControl.Failure.Named
import AccessControl.Party.Basic
import AccessControl.Permission.Basic
import AccessControl.Resource.Basic
import AccessControl.Resource.ImageName
import AccessControl.Shelf

namespace AccessControl

/-! ## 1. Refusals -/

/-- Why a store refuses. -/
inductive Refusal where
  | realmExists (name : String)
  | loginTaken (login : UserId)
  | imageName (fault : ImageName.Fault)
  | misplaced (fault : ChildFault)
  | notRealm (id : ObjectId)
  | noResource (id : ObjectId)
  | noParty (id : ObjectId)
  | noEntry (id : ObjectId)
  | noUser (login : UserId)
  | userAsGroup
  | groupAsMember
  | otherRealm
  | groupAttempt
deriving DecidableEq, Repr

/-- The failure that a client gets. -/
def Refusal.failure : Refusal → Failure
  | .realmExists name => Failure.conflict s!"realm {name} already exists"
  | .loginTaken login => Failure.conflict s!"user id {login.value} is already taken"
  | .imageName fault => Failure.badRequest fault.message
  | .misplaced fault => Failure.badRequest fault.message
  | .notRealm id => Failure.badRequest s!"{id.value} is not a realm"
  | .noResource id => Failure.noSuch "resource" id.value
  | .noParty id => Failure.noSuch "party" id.value
  | .noEntry id => Failure.noSuch "acl entry" id.value
  | .noUser login => Failure.noSuch "user" login.value
  | .userAsGroup => Failure.badRequest "groups cannot contain groups or be users"
  | .groupAsMember => Failure.badRequest "groups cannot contain groups"
  | .otherRealm => Failure.badRequest "user and group belong to different realms"
  | .groupAttempt => Failure.badRequest "login attempts belong to users"

/-! ## 2. The store -/

/-- All resources, parties and grants. -/
structure Store where
  resources : Shelf ObjectId Resource
  parties : Shelf ObjectId Party
  entries : Shelf ObjectId AclEntry
  logins : Shelf UserId ObjectId
deriving DecidableEq

namespace Store

def empty : Store := ⟨Shelf.empty, Shelf.empty, Shelf.empty, Shelf.empty⟩

def found {α : Type} (refusal : Refusal) : Option α → Except Refusal α
  | some a => .ok a
  | none => .error refusal

def resource (s : Store) (id : ObjectId) : Except Refusal Resource :=
  found (.noResource id) (s.resources.get? id)

def party (s : Store) (id : ObjectId) : Except Refusal Party :=
  found (.noParty id) (s.parties.get? id)

def entry (s : Store) (id : ObjectId) : Except Refusal AclEntry :=
  found (.noEntry id) (s.entries.get? id)

def user (s : Store) (login : UserId) : Except Refusal User :=
  found (.noUser login) (((s.logins.get? login).bind s.parties.get?).bind Party.user?)

def resourceCount (s : Store) : Nat := s.resources.size

def putResource (s : Store) (r : Resource) : Store :=
  { s with resources := s.resources.put r.id r }

def putParty (s : Store) (p : Party) : Store := { s with parties := s.parties.put p.id p }

/-! ## 3. Resources -/

def hasRealm (s : Store) (name : String) : Bool :=
  s.resources.values.any fun r => r.type == .realm && r.name == name

/-- A new realm; its name must not be taken by another realm. -/
def createRealm (s : Store) (id : ObjectId) (now : Timestamp) (name : String)
    (description : Option String) : Except Refusal (Resource × Store) :=
  if s.hasRealm name then .error (.realmExists name)
  else
    let r := Resource.realm id now name description .empty
    .ok (r, s.putResource r)

/-- The name suits a resource of its kind: only the names of images have a rule. -/
def checkName (name : String) (kind : ResourceKind) : Except Refusal Unit :=
  if kind.type = .dockerImage then (ImageName.check name).mapError .imageName else .ok ()

/-- A new resource under a parent, which lists it as its child. -/
def createResource (s : Store) (id : ObjectId) (now : Timestamp) (parentId : ObjectId)
    (name : String) (description : Option String) (kind : ResourceKind) :
    Except Refusal (Resource × Store) := do
  checkName name kind
  let parent ← s.resource parentId
  let child ← (Resource.child id now parent name description kind).mapError .misplaced
  -- a parent of the right kind lists the child (`ResourceKind.adopt_isSome`)
  let adopted := (parent.kind.adopt kind.type id).getD parent.kind
  return (child, (s.putResource { parent with kind := adopted }).putResource child)

def createRepository (s : Store) (id : ObjectId) (now : Timestamp) (realmId : ObjectId)
    (name : String) (description : Option String) : Except Refusal (Resource × Store) :=
  s.createResource id now realmId name description (.repository .empty)

/-! ## 4. Parties -/

def updateRealm (s : Store) (id : ObjectId) (f : RealmData → RealmData) : Except Refusal Store := do
  let r ← s.resource id
  match r.kind with
  | .realm data =>
    return { s with resources := s.resources.put id { r with kind := .realm (f data) } }
  | _ => .error (.notRealm id)

/-- A new user of a realm; nobody else may have the login. -/
def createUser (s : Store) (id : ObjectId) (now : Timestamp) (realmId : ObjectId) (login : UserId)
    (name passwordHash : String) : Except Refusal (User × Store) :=
  if (s.logins.get? login).isSome then .error (.loginTaken login)
  else do
    let s ← s.updateRealm realmId fun d => { d with userIds := d.userIds ++ [id] }
    let u := User.new (PartyInfo.new id now name realmId) login passwordHash
    return (u, { s.putParty (.user u) with logins := s.logins.put login id })

def createGroup (s : Store) (id : ObjectId) (now : Timestamp) (realmId : ObjectId) (name : String)
    (description : Option String) : Except Refusal (Group × Store) := do
  let s ← s.updateRealm realmId fun d => { d with groupIds := d.groupIds ++ [id] }
  let g := Group.new (PartyInfo.new id now name realmId) description
  return (g, s.putParty (.group g))

def group (s : Store) (id : ObjectId) : Except Refusal Group := do
  match ← s.party id with
  | .group g => return g
  | .user _ => .error .userAsGroup

/-- A user joins a group of its realm.  Who is in a group already stays in it once. -/
def addUserToGroup (s : Store) (userObject groupId : ObjectId) : Except Refusal Store := do
  let g ← s.group groupId
  match ← s.party userObject with
  | .group _ => .error .groupAsMember
  | .user u =>
    if u.info.realmId ≠ g.info.realmId then .error .otherRealm
    else
      let u := { u with groupIds := ObjectId.append u.groupIds groupId }
      let g := { g with userIds := ObjectId.append g.userIds userObject }
      return { s with
        parties := (s.parties.put userObject (.user u)).put groupId (.group g) }

/-- A user's login attempt goes on record. -/
def recordAttempt (s : Store) (userObject : ObjectId) (attempt : LoginAttempt) :
    Except Refusal Store := do
  match ← s.party userObject with
  | .group _ => .error .groupAttempt
  | .user u =>
    let u := { u with attempts := u.attempts ++ [attempt] }
    return { s with parties := s.parties.put userObject (.user u) }

end Store

end AccessControl
