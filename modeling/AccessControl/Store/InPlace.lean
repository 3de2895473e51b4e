/-
  AccessControl/Store/InPlace.lean
  ================================
  **The changes of a store, one write after another.**

  A store in memory is changed in place.  A change looks something up, writes one object,
  looks up the next, and so on; what it has written is there from then on, also if a later
  look-up fails and the change ends early.  Here every change is such a row of look-ups and
  writes, in the order in which they are made.  An object that is written is looked up right
  before, in the tables as they are by then, even if an earlier look-up found it already.

  The functions on stores of the same names make a change in one go.  That the rows come to
  the same, and that a row never ends between two of its writes, is a matter of proof.

  ## Main definitions

  * `Halt`: why a row ends early;
  * `InPlace`: computations on the tables, which keep what was written when they end early;
  * `InPlace.createRealm`, …, `InPlace.recordAttempt`: the changes.
-/
import AccessControl.Store.Access

namespace AccessControl

/-! ## 1. Looking up and writing -/

/-- Why a row of look-ups and writes ends early. -/
inductive Halt where
  | refused (why : Refusal)
  /-- A parent has the kind that its child needs, but no list for such children. -/
  | noChildList
deriving DecidableEq, Repr

def Halt.failure : Halt → Failure
  | .refused why => why.failure
  | .noChildList => Failure.internal "parent kind passed validation but has no child list"

/-- A computation on the tables of a store.  It ends with a result or early, and in both cases
    with the tables as they are by then. -/
abbrev InPlace (α : Type) := EStateM Halt Store α

namespace InPlace

variable {α : Type}

def look (f : Store → Except Refusal α) : InPlace α := fun s =>
  match f s with
  | .ok a => .ok a s
  | .error why => .error (.refused why) s

def check (p : Store → Bool) (why : Refusal) : InPlace Unit :=
  look fun s => if p s then .ok () else .error why

def putResource (id : ObjectId) (r : Resource) : InPlace Unit :=
  modify fun s => { s with resources := s.resources.put id r }

def putParty (id : ObjectId) (p : Party) : InPlace Unit :=
  modify fun s => { s with parties := s.parties.put id p }

def putEntry (e : AclEntry) : InPlace Unit :=
  modify fun s => { s with entries := s.entries.put e.id e }

def eraseEntry (id : ObjectId) : InPlace Unit :=
  modify fun s => { s with entries := s.entries.erase id }

def putLogin (login : UserId) (id : ObjectId) : InPlace Unit :=
  modify fun s => { s with logins := s.logins.put login id }

/-- What was written before a row ends early stays written. -/
example (s : Store) (login : UserId) (id : ObjectId) :
    (do putLogin login id; look fun s => s.group id : InPlace Group) s =
      (look fun s => s.group id : InPlace Group) { s with logins := s.logins.put login id } := rfl

/-! ## 2. Resources -/

def createRealm (id : ObjectId) (now : Timestamp) (name : String) (description : Option String) :
    InPlace Resource := do
  check (fun s => !s.hasRealm name) (.realmExists name)
  let r := Resource.realm id now name description .empty
  putResource id r
  return r

def adopt (parent : ResourceKind) (child : ResourceType) (id : ObjectId) : InPlace ResourceKind :=
  match parent.adopt child id with
  | some adopted => pure adopted
  | none => throw .noChildList

def createResource (id : ObjectId) (now : Timestamp) (parentId : ObjectId) (name : String)
    (description : Option String) (kind : ResourceKind) : InPlace Resource := do
  look fun _ => Store.checkName name kind
  let parent ← look fun s => s.resource parentId
  let child ← look fun _ => (Resource.child id now parent name description kind).mapError .misplaced
  let parent ← look fun s => s.resource parentId
  let adopted ← adopt parent.kind kind.type id
  putResource parentId { parent with kind := adopted }
  putResource id child
  return child

def createRepository (id : ObjectId) (now : Timestamp) (realmId : ObjectId) (name : String)
    (description : Option String) : InPlace Resource :=
  createResource id now realmId name description (.repository .empty)

/-! ## 3. Parties -/

def realm (s : Store) (id : ObjectId) : Except Refusal (Resource × RealmData) := do
  let r ← s.resource id
  match r.kind with
  | .realm data => return (r, data)
  | _ => .error (.notRealm id)

def createUser (id : ObjectId) (now : Timestamp) (realmId : ObjectId) (login : UserId)
    (name passwordHash : String) : InPlace User := do
  check (fun s => (s.logins.get? login).isNone) (.loginTaken login)
  let (r, data) ← look fun s => realm s realmId
  putResource realmId { r with kind := .realm { data with userIds := data.userIds ++ [id] } }
  let u := User.new (PartyInfo.new id now name realmId) login passwordHash
  putLogin login id
  putParty id (.user u)
  return u

def createGroup (id : ObjectId) (now : Timestamp) (realmId : ObjectId) (name : String)
    (description : Option String) : InPlace Group := do
  let (r, data) ← look fun s => realm s realmId
  putResource realmId { r with kind := .realm { data with groupIds := data.groupIds ++ [id] } }
  let g := Group.new (PartyInfo.new id now name realmId) description
  putParty id (.group g)
  return g

/-- The user with an id, who may become a member of a group. -/
def candidate (s : Store) (id : ObjectId) : Except Refusal User := do
  match ← s.party id with
  | .user u => return u
  | .group _ => .error .groupAsMember

def join (id : ObjectId) (u : User) (groupId : ObjectId) : InPlace Unit :=
  if groupId ∈ u.groupIds then pure ()
  else putParty id (.user { u with groupIds := u.groupIds ++ [groupId] })

/-- A party lists a user, unless it does already or is no group. -/
def enlist (id : ObjectId) (p : Party) (userObject : ObjectId) : InPlace Unit :=
  match p with
  | .user _ => pure ()
  | .group g =>
    if userObject ∈ g.userIds then pure ()
    else putParty id (.group { g with userIds := g.userIds ++ [userObject] })

def addUserToGroup (userObject groupId : ObjectId) : InPlace Unit := do
  let g ← look fun s => s.group groupId
  let u ← look fun s => candidate s userObject
  check (fun _ => u.info.realmId = g.info.realmId) .otherRealm
  join userObject u groupId
  let p ← look fun s => s.party groupId
  enlist groupId p userObject

def recordAttempt (userObject : ObjectId) (attempt : LoginAttempt) : InPlace Unit := do
  match ← look fun s => s.party userObject with
  | .group _ => throw (.refused .groupAttempt)
  | .user u => putParty userObject (.user { u with attempts := u.attempts ++ [attempt] })

/-! ## 4. Grants -/

/-- A grant is made or changed: the function makes its mask from the one held so far. -/
def updateAccess (id resourceId partyId : ObjectId) (f : Mask → Mask) : InPlace AclEntry := do
  let _ ← look fun s => s.resource resourceId
  let _ ← look fun s => s.party partyId
  match ← look fun s => .ok (s.entryFor? resourceId partyId) with
  | some e =>
    let e := { e with mask := f e.mask }
    putEntry e
    return e
  | none =>
    let e : AclEntry := ⟨id, resourceId, partyId, f Mask.none⟩
    let r ← look fun s => s.resource resourceId
    putResource resourceId (r.attach id)
    let p ← look fun s => s.party partyId
    putParty partyId (p.attach id)
    putEntry e
    return e

def setAccess (id resourceId partyId : ObjectId) (mask : Mask) : InPlace AclEntry :=
  updateAccess id resourceId partyId fun _ => mask

/-- A party gets these permissions on a resource besides those that it has. -/
def addAccess (id resourceId partyId : ObjectId) (mask : Mask) : InPlace AclEntry :=
  updateAccess id resourceId partyId fun held => held.union mask

def detachResource (id entryId : ObjectId) : InPlace Unit := do
  match ← look fun s => .ok (s.resources.get? id) with
  | some r => putResource id (r.detach entryId)
  | none => pure ()

def detachParty (id entryId : ObjectId) : InPlace Unit := do
  match ← look fun s => .ok (s.parties.get? id) with
  | some p => putParty id (p.detach entryId)
  | none => pure ()

def deleteAccess (resourceId partyId : ObjectId) : InPlace Unit := do
  let e ← look fun s => Store.found (.noEntry resourceId) (s.entryFor? resourceId partyId)
  eraseEntry e.id
  detachResource resourceId e.id
  detachParty partyId e.id

end InPlace

end AccessControl
