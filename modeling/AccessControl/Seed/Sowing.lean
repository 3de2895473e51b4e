/-
  AccessControl/Seed/Sowing.lean
  ==============================
  **Filling a store from a seed.**

  A seed is carried out step by step: realm by realm its users, its groups with their
  members, and its repositories with what they hold; the grants come last, so that they
  can be about anything in the seed.  A member must be a user that was made before.
  The first step that cannot be carried out ends the work, and what was made before it
  stays in the store.

  Each object that is made takes the next id of a supply that the caller gives.

  ## Main definitions

  * `SeedStep`, `Seed.steps`: the steps of a seed;
  * `Sowing`: how far the work is;
  * `SeedStep.perform`, `Sowing.run`, `Seed.sow`: carrying out one step, several, all.

  ## Main statements

  * `run_append`: a row of steps is carried out part by part.
-/
import AccessControl.Digest.Salted
import AccessControl.Seed.Basic
import AccessControl.Seed.Index
import AccessControl.Store.Access

namespace AccessControl

/-! ## 1. Steps -/

/-- One step in filling a store.  What the step belongs to is named by its path. -/
inductive SeedStep where
  | realm (name : String) (description : Option String)
  | user (realm : String) (user : UserSeed)
  | group (realm name : String) (description : Option String)
  | member (group login : String)
  | repository (realm name : String) (description : Option String)
  | child (repository name : String) (kind : ResourceKind)
  | grant (grant : GrantSeed)
deriving DecidableEq, Repr

def seedPath (outer inner : String) : String := outer ++ "/" ++ inner

/-- The steps for a group: the group itself, then its members. -/
def GroupSeed.steps (realm : String) (g : GroupSeed) : List SeedStep :=
  .group realm g.name g.description :: g.members.map (.member (seedPath realm g.name))

/-- The steps for a repository: the repository itself, then what it holds. -/
def RepositorySeed.steps (realm : String) (r : RepositorySeed) : List SeedStep :=
  .repository realm r.name r.description
    :: r.children.map fun c => .child (seedPath realm r.name) c.1 c.2

/-- The steps for a realm: the realm itself, its users, its groups, its repositories. -/
def RealmSeed.steps (r : RealmSeed) : List SeedStep :=
  .realm r.name r.description :: r.users.map (.user r.name)
    ++ r.groups.flatMap (GroupSeed.steps r.name)
    ++ r.repositories.flatMap (RepositorySeed.steps r.name)

/-- The steps of a seed: all realms, then all grants. -/
def Seed.steps (s : Seed) : List SeedStep :=
  s.realms.flatMap RealmSeed.steps ++ s.grants.map .grant

/-! ## 2. Carrying them out -/

/-- How far the work is. -/
structure Sowing where
  store : Store
  index : SeedIndex
  taken : Nat
deriving DecidableEq

/-- What the steps need besides: ids, the date, and the salt for passwords. -/
structure Supply where
  ids : Nat → ObjectId
  now : Timestamp
  salt : Digest.Salt

def GrantSeed.party (g : GrantSeed) (x : SeedIndex) : Except SeedFault ObjectId :=
  match g.user, g.group with
  | some login, none => x.user login
  | none, some path => x.group path
  | _, _ => .error (.notOneParty g.resource)

/-- What a step does: the store after it, the ids taken, and the index after it.  The
    store may have changed even when the index refuses a name. -/
def SeedStep.effect (e : Supply) (w : Sowing) :
    SeedStep → Except SeedFault (Store × Nat × Except SeedFault SeedIndex)
  | .realm name description => do
    let (r, store) ← (w.store.createRealm (e.ids w.taken) e.now name description).mapError .refused
    return (store, w.taken + 1, w.index.addResource name r.id)
  | .user realmPath u => do
    let realmId ← w.index.resource realmPath
    let (made, store) ← (w.store.createUser (e.ids w.taken) e.now realmId ⟨u.login⟩
      (u.name.getD u.login) (e.salt.hashPassword u.password)).mapError .refused
    return (store, w.taken + 1, .ok (w.index.addUser u.login made.info.id))
  | .group realmPath name description => do
    let realmId ← w.index.resource realmPath
    let (made, store) ←
      (w.store.createGroup (e.ids w.taken) e.now realmId name description).mapError .refused
    return (store, w.taken + 1, .ok (w.index.addGroup (seedPath realmPath name) made.info.id))
  | .member groupPath login => do
    let user ← w.index.user login
    let groupId ← w.index.group groupPath
    let store ← (w.store.addUserToGroup user groupId).mapError .refused
    return (store, w.taken, .ok w.index)
  | .repository realmPath name description => do
    let realmId ← w.index.resource realmPath
    let (made, store) ←
      (w.store.createRepository (e.ids w.taken) e.now realmId name description).mapError .refused
    return (store, w.taken + 1, w.index.addResource (seedPath realmPath name) made.id)
  | .child parentPath name kind => do
    let parentId ← w.index.resource parentPath
    let (made, store) ←
      (w.store.createResource (e.ids w.taken) e.now parentId name none kind).mapError .refused
    return (store, w.taken + 1, w.index.addResource (seedPath parentPath name) made.id)
  | .grant g => do
    let resourceId ← w.index.resource g.resource
    let partyId ← g.party w.index
    let (_, store) ← (w.store.addAccess (e.ids w.taken) resourceId partyId
      (Mask.of g.permissions)).mapError .refused
    let new := (w.store.entryFor? resourceId partyId).isNone
    return (store, if new then w.taken + 1 else w.taken, .ok w.index)

/-- A step is carried out; the fault, if there is one, ends the work. -/
def SeedStep.perform (e : Supply) (step : SeedStep) (w : Sowing) : Sowing × Option SeedFault :=
  match step.effect e w with
  | .error fault => (w, some fault)
  | .ok (store, taken, .ok index) => (⟨store, index, taken⟩, none)
  | .ok (store, taken, .error fault) => (⟨store, w.index, taken⟩, some fault)

/-- Steps are carried out one after another, up to the first fault. -/
def Sowing.run (e : Supply) (w : Sowing) : List SeedStep → Sowing × Option SeedFault
  | [] => (w, none)
  | step :: rest =>
    match step.perform e w with
    | (w, none) => run e w rest
    | (w, some fault) => (w, some fault)

/-- A row of steps is carried out part by part. -/
theorem Sowing.run_append (e : Supply) (w : Sowing) (first second : List SeedStep) :
    w.run e (first ++ second) =
      match w.run e first with
      | (w, none) => w.run e second
      | (w, some fault) => (w, some fault) := by
  induction first generalizing w with
  | nil => rfl
  | cons step rest ih =>
    simp only [List.cons_append, run]
    rcases step.perform e w with ⟨w', _ | fault⟩
    · exact ih w'
    · rfl

/-- A seed is carried out on a store, with the first ids of the supply. -/
def Seed.sow (s : Seed) (e : Supply) (store : Store) : Sowing × Option SeedFault :=
  Sowing.run e ⟨store, SeedIndex.empty, 0⟩ s.steps

end AccessControl
