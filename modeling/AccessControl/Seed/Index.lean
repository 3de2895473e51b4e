/-
  AccessControl/Seed/Index.lean
  =============================
  **The index of what a seed made.**

  After a seed was applied, what it made is found by name.  An index also tells which
  object a check is about: a resource by its path, or a user by its login after
  `user:`.

  ## Main definitions

  * `SeedFault`, `SeedFault.message`: what can be wrong with a seed;
  * `SeedIndex`, `SeedIndex.resource`, `user`, `group`, `target`;
  * `SeedIndex.addResource`: one more resource, under a path of its own.
-/
import AccessControl.Shelf
import AccessControl.Store.Basic

namespace AccessControl

/-! ## 1. Faults -/

/-- What can be wrong with a seed. -/
inductive SeedFault where
  | refused (refusal : Refusal)
  | unknown (kind name : String)
  | duplicatePath (path : String)
  | notOneParty (resource : String)
deriving DecidableEq, Repr

def SeedFault.message : SeedFault → String
  | .refused refusal => "seed rejected by store: " ++ refusal.failure.userMessage
  | .unknown kind name => s!"unknown {kind} '{name}' in seed"
  | .duplicatePath path => s!"invalid seed: duplicate resource path '{path}'"
  | .notOneParty resource =>
    s!"invalid seed: grant on '{resource}' must name exactly one of user or group"

/-! ## 2. The index -/

/-- The ids of what a seed made, by name. -/
structure SeedIndex where
  resources : Shelf String ObjectId
  users : Shelf String ObjectId
  groups : Shelf String ObjectId
deriving DecidableEq

namespace SeedIndex

def empty : SeedIndex := ⟨Shelf.empty, Shelf.empty, Shelf.empty⟩

def find (kind : String) (shelf : Shelf String ObjectId) (name : String) :
    Except SeedFault ObjectId :=
  match shelf.get? name with
  | some id => .ok id
  | none => .error (.unknown kind name)

def resource (x : SeedIndex) (path : String) : Except SeedFault ObjectId :=
  find "resource" x.resources path

def user (x : SeedIndex) (login : String) : Except SeedFault ObjectId := find "user" x.users login

def group (x : SeedIndex) (path : String) : Except SeedFault ObjectId := find "group" x.groups path

def userMark : List Char := "user:".toList

/-- The object that a check is about. -/
def target (x : SeedIndex) (raw : String) : Except SeedFault ObjectId :=
  if userMark.isPrefixOf raw.toList then x.user (String.ofList (raw.toList.drop userMark.length))
  else x.resource raw

/-- The index with one more resource; its path must be new. -/
def addResource (x : SeedIndex) (path : String) (id : ObjectId) : Except SeedFault SeedIndex :=
  if (x.resources.get? path).isSome then .error (.duplicatePath path)
  else .ok { x with resources := x.resources.put path id }

/-- The index with one more user, in place of one with the same login. -/
def addUser (x : SeedIndex) (login : String) (id : ObjectId) : SeedIndex :=
  { x with users := x.users.put login id }

/-- The index with one more group, in place of one with the same path. -/
def addGroup (x : SeedIndex) (path : String) (id : ObjectId) : SeedIndex :=
  { x with groups := x.groups.put path id }

def encodeIds (shelf : Shelf String ObjectId) : Json :=
  .table (shelf.entries.map fun e => (e.1, Json.text e.2.value))

def view (x : SeedIndex) : List (String × Json) :=
  [("resources", encodeIds x.resources), ("users", encodeIds x.users),
   ("groups", encodeIds x.groups)]

end SeedIndex

end AccessControl
