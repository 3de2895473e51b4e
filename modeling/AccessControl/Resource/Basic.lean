/-
  AccessControl/Resource/Basic.lean
  =================================
  **Resources: the nodes of the ownership tree.**

  A realm is the root of a tree; repositories stand under a realm, and dockerfiles,
  images, scan configurations and flags under a repository.  A resource knows its
  parent from the moment it is made, and keeps the ids of the grants on it; realms
  and repositories also list their children by kind.

  ## Main definitions

  * `ResourceType`, `ResourceType.parentType?`: the kinds, and what each stands under;
  * `ResourceKind`: the data of a resource, by kind;
  * `Resource`, `Resource.realm`, `Resource.child`: resources, and making them;
  * `ResourceKind.adopt`: a parent's data with one more child.

  ## Main statements

  * `child_eq_ok`: when a child can be made, and what it is;
  * `adopt_isSome`: a parent of the right kind has a list for the child.
-/
import AccessControl.Identity.Basic
import AccessControl.Identity.Timestamp

namespace AccessControl

/-! ## 1. Kinds -/

/-- The kind of a resource. -/
inductive ResourceType where
  | realm | repository | dockerfile | dockerImage | scanConfig | flag
deriving DecidableEq, Repr

def ResourceType.text : ResourceType → String
  | .realm => "realm"
  | .repository => "repository"
  | .dockerfile => "dockerfile"
  | .dockerImage => "docker image"
  | .scanConfig => "scan config"
  | .flag => "flag"

/-- The kind that the parent of a resource has; a realm has no parent. -/
def ResourceType.parentType? : ResourceType → Option ResourceType
  | .realm => none
  | .repository => some .realm
  | .dockerfile | .dockerImage | .scanConfig | .flag => some .repository

structure RealmData where
  adminUserId : Option ObjectId
  fileDirectory : Option String
  userIds : List ObjectId
  groupIds : List ObjectId
  repositoryIds : List ObjectId
deriving DecidableEq, Repr

structure RepositoryData where
  fileDirectory : Option String
  dockerfileIds : List ObjectId
  imageIds : List ObjectId
  scanConfigIds : List ObjectId
  flagIds : List ObjectId
deriving DecidableEq, Repr

structure DockerfileData where
  path : String
  execEventIds : List ObjectId
deriving DecidableEq, Repr

structure DockerImageData where
  signature : Option String
  buildOutput : Option String
  scanEventIds : List ObjectId
deriving DecidableEq, Repr

structure ScanConfigData where
  provider : String
  successExpression : Option String
  flagId : Option ObjectId
  parameterValueIds : List ObjectId
  scanEventIds : List ObjectId
deriving DecidableEq, Repr

structure FlagData where
  successImagePath : String
  usedByScanConfigIds : List ObjectId
deriving DecidableEq, Repr

/-- The data of a resource, by its kind. -/
inductive ResourceKind where
  | realm (data : RealmData)
  | repository (data : RepositoryData)
  | dockerfile (data : DockerfileData)
  | dockerImage (data : DockerImageData)
  | scanConfig (data : ScanConfigData)
  | flag (data : FlagData)
deriving DecidableEq, Repr

def RealmData.empty : RealmData := ⟨none, none, [], [], []⟩

def RepositoryData.empty : RepositoryData := ⟨none, [], [], [], []⟩

namespace ResourceKind

def type : ResourceKind → ResourceType
  | .realm _ => .realm
  | .repository _ => .repository
  | .dockerfile _ => .dockerfile
  | .dockerImage _ => .dockerImage
  | .scanConfig _ => .scanConfig
  | .flag _ => .flag

def newDockerfile (path : String) : ResourceKind := .dockerfile ⟨path, []⟩

def newDockerImage (signature : Option String) : ResourceKind := .dockerImage ⟨signature, none, []⟩

def newScanConfig (provider : String) : ResourceKind := .scanConfig ⟨provider, none, none, [], []⟩

def newFlag (successImagePath : String) : ResourceKind := .flag ⟨successImagePath, []⟩

/-- A parent's data with a child of the given kind at the end of its list; none if a
    resource of this kind has no list for such children. -/
def adopt (parent : ResourceKind) (child : ResourceType) (id : ObjectId) : Option ResourceKind :=
  match parent, child with
  | .realm d, .repository => some (.realm { d with repositoryIds := d.repositoryIds ++ [id] })
  | .repository d, .dockerfile =>
    some (.repository { d with dockerfileIds := d.dockerfileIds ++ [id] })
  | .repository d, .dockerImage => some (.repository { d with imageIds := d.imageIds ++ [id] })
  | .repository d, .scanConfig =>
    some (.repository { d with scanConfigIds := d.scanConfigIds ++ [id] })
  | .repository d, .flag => some (.repository { d with flagIds := d.flagIds ++ [id] })
  | _, _ => none

/-- A parent of the right kind has a list for the child. -/
theorem adopt_isSome {parent : ResourceKind} {child : ResourceType} (id : ObjectId) :
    (parent.adopt child id).isSome = true ↔ child.parentType? = some parent.type := by
  cases parent <;> cases child <;> simp [adopt, ResourceType.parentType?, type]

theorem type_adopt {parent kind : ResourceKind} {child : ResourceType} {id : ObjectId}
    (h : parent.adopt child id = some kind) : kind.type = parent.type := by
  cases parent <;> cases child <;> simp [adopt] at h <;> subst h <;> rfl

end ResourceKind

/-! ## 2. Resources -/

/-- A node of the ownership tree. -/
structure Resource where
  id : ObjectId
  name : String
  description : Option String
  createdAt : Timestamp
  parentId : Option ObjectId
  entryIds : List ObjectId
  kind : ResourceKind
deriving DecidableEq, Repr

inductive ChildFault where
  | realmHasNoParent
  | wrongParent (child expected actual : ResourceType)
deriving DecidableEq, Repr

def ChildFault.message : ChildFault → String
  | .realmHasNoParent => "a realm is the root of its tree and takes no parent"
  | .wrongParent child expected actual =>
    "a " ++ child.text ++ " must be created under a " ++ expected.text ++ ", not a " ++ actual.text

namespace Resource

def type (r : Resource) : ResourceType := r.kind.type

def realm (id : ObjectId) (now : Timestamp) (name : String) (description : Option String)
    (data : RealmData) : Resource :=
  { id := id, name := name, description := description, createdAt := now, parentId := none,
    entryIds := [], kind := .realm data }

/-- A new resource under a parent, if the parent is of the kind that it needs. -/
def child (id : ObjectId) (now : Timestamp) (parent : Resource) (name : String)
    (description : Option String) (kind : ResourceKind) : Except ChildFault Resource :=
  match kind.type.parentType? with
  | none => .error .realmHasNoParent
  | some expected =>
    if parent.type = expected then
      .ok { id := id, name := name, description := description, createdAt := now,
            parentId := some parent.id, entryIds := [], kind := kind }
    else .error (.wrongParent kind.type expected parent.type)

/-- When a child can be made, and what it is. -/
theorem child_eq_ok {id : ObjectId} {now : Timestamp} {parent r : Resource} {name : String}
    {description : Option String} {kind : ResourceKind} :
    child id now parent name description kind = .ok r ↔
      kind.type.parentType? = some parent.type ∧
        r = ⟨id, name, description, now, some parent.id, [], kind⟩ := by
  unfold child
  split
  · next h => simp [h]
  · next expected h =>
    by_cases he : parent.type = expected
    · simp [h, he, eq_comm]
    · simp [h, he, Ne.symm he]

def attach (r : Resource) (entry : ObjectId) : Resource :=
  { r with entryIds := ObjectId.append r.entryIds entry }

def detach (r : Resource) (entry : ObjectId) : Resource :=
  { r with entryIds := ObjectId.remove r.entryIds entry }

end Resource

end AccessControl
