/-
  AccessControl/Resource/View.lean
  ================================
  **Resources as JSON values.**

  A resource is a record of its common fields and of its kind; a kind is the record
  of its data with a tag.  Lists of ids in the data have to be there even when they
  are empty; optional values may be left out or `null`.  Besides its data, a resource
  is shown with its kind in words and the one predicate of kinds that holds for it.

  ## Main definitions

  * `ResourceType.decode?`, `ResourceKind.encode`, `ResourceKind.decode?`;
  * `Resource.encode`, `Resource.decode?`;
  * `Resource.view`: the entries that show a resource.

  ## Main statements

  * `ResourceKind.decode?_encode`, `Resource.decode?_encode`: what is written reads
    back.
-/
import AccessControl.Identity.Wire
import AccessControl.Json.Draft
import AccessControl.Resource.Basic

namespace AccessControl

variable {σ : Type} [Scalar σ]

/-! ## 1. Kinds -/

def ResourceType.name : ResourceType → String
  | .realm => "Realm"
  | .repository => "Repository"
  | .dockerfile => "Dockerfile"
  | .dockerImage => "DockerImage"
  | .scanConfig => "ScanConfig"
  | .flag => "Flag"

def ResourceType.all : List ResourceType :=
  [.realm, .repository, .dockerfile, .dockerImage, .scanConfig, .flag]

def ResourceType.decode? (d : Document σ) : Option ResourceType :=
  d.choice? (ResourceType.all.map fun t => (t.name, t))

def ResourceType.tag : ResourceType → String
  | .realm => "realm"
  | .repository => "repository"
  | .dockerfile => "dockerfile"
  | .dockerImage => "docker_image"
  | .scanConfig => "scan_config"
  | .flag => "flag"

def RealmData.entries (d : RealmData) : List (String × Json) :=
  [("admin_user_id", ObjectId.encodeOptional d.adminUserId),
   ("file_directory", Json.optionalText d.fileDirectory),
   ("user_ids", ObjectId.encodeAll d.userIds), ("group_ids", ObjectId.encodeAll d.groupIds),
   ("repo_ids", ObjectId.encodeAll d.repositoryIds)]

def RealmData.decode? (d : Json) : Option RealmData := do
  let r ← d.record? ["admin_user_id", "file_directory", "user_ids", "group_ids", "repo_ids"]
  return { adminUserId := ← r.optional "admin_user_id" ObjectId.decode?
           fileDirectory := ← r.optional "file_directory" Document.text?
           userIds := ← r.required "user_ids" ObjectId.decodeAll?
           groupIds := ← r.required "group_ids" ObjectId.decodeAll?
           repositoryIds := ← r.required "repo_ids" ObjectId.decodeAll? }

def RepositoryData.entries (d : RepositoryData) : List (String × Json) :=
  [("file_directory", Json.optionalText d.fileDirectory),
   ("dockerfile_ids", ObjectId.encodeAll d.dockerfileIds),
   ("image_ids", ObjectId.encodeAll d.imageIds),
   ("scan_config_ids", ObjectId.encodeAll d.scanConfigIds),
   ("flag_ids", ObjectId.encodeAll d.flagIds)]

def RepositoryData.decode? (d : Json) : Option RepositoryData := do
  let r ← d.record?
    ["file_directory", "dockerfile_ids", "image_ids", "scan_config_ids", "flag_ids"]
  return { fileDirectory := ← r.optional "file_directory" Document.text?
           dockerfileIds := ← r.required "dockerfile_ids" ObjectId.decodeAll?
           imageIds := ← r.required "image_ids" ObjectId.decodeAll?
           scanConfigIds := ← r.required "scan_config_ids" ObjectId.decodeAll?
           flagIds := ← r.required "flag_ids" ObjectId.decodeAll? }

def DockerfileData.entries (d : DockerfileData) : List (String × Json) :=
  [("external_file_path", Json.text d.path), ("exec_event_ids", ObjectId.encodeAll d.execEventIds)]

def DockerfileData.decode? (d : Json) : Option DockerfileData := do
  let r ← d.record? ["external_file_path", "exec_event_ids"]
  return { path := ← r.required "external_file_path" Document.text?
           execEventIds := ← r.required "exec_event_ids" ObjectId.decodeAll? }

def DockerImageData.entries (d : DockerImageData) : List (String × Json) :=
  [("signature", Json.optionalText d.signature),
   ("build_output", Json.optionalText d.buildOutput),
   ("scan_event_ids", ObjectId.encodeAll d.scanEventIds)]

def DockerImageData.decode? (d : Json) : Option DockerImageData := do
  let r ← d.record? ["signature", "build_output", "scan_event_ids"]
  return { signature := ← r.optional "signature" Document.text?
           buildOutput := ← r.optional "build_output" Document.text?
           scanEventIds := ← r.required "scan_event_ids" ObjectId.decodeAll? }

def ScanConfigData.entries (d : ScanConfigData) : List (String × Json) :=
  [("provider_name", Json.text d.provider),
   ("success_expr", Json.optionalText d.successExpression),
   ("flag_id", ObjectId.encodeOptional d.flagId),
   ("parameter_value_ids", ObjectId.encodeAll d.parameterValueIds),
   ("scan_event_ids", ObjectId.encodeAll d.scanEventIds)]

def ScanConfigData.decode? (d : Json) : Option ScanConfigData := do
  let r ← d.record?
    ["provider_name", "success_expr", "flag_id", "parameter_value_ids", "scan_event_ids"]
  return { provider := ← r.required "provider_name" Document.text?
           successExpression := ← r.optional "success_expr" Document.text?
           flagId := ← r.optional "flag_id" ObjectId.decode?
           parameterValueIds := ← r.required "parameter_value_ids" ObjectId.decodeAll?
           scanEventIds := ← r.required "scan_event_ids" ObjectId.decodeAll? }

def FlagData.entries (d : FlagData) : List (String × Json) :=
  [("success_image_path", Json.text d.successImagePath),
   ("used_by_scan_config_ids", ObjectId.encodeAll d.usedByScanConfigIds)]

def FlagData.decode? (d : Json) : Option FlagData := do
  let r ← d.record? ["success_image_path", "used_by_scan_config_ids"]
  return { successImagePath := ← r.required "success_image_path" Document.text?
           usedByScanConfigIds := ← r.required "used_by_scan_config_ids" ObjectId.decodeAll? }

/-- The data of a resource as a value, its tag first. -/
def ResourceKind.encode (k : ResourceKind) : Json :=
  .table <| ("type", Json.text k.type.tag) :: match k with
    | .realm d => d.entries
    | .repository d => d.entries
    | .dockerfile d => d.entries
    | .dockerImage d => d.entries
    | .scanConfig d => d.entries
    | .flag d => d.entries

/-- The data of a resource that a value stands for.  All of the value has to be readable,
    since the tag may stand anywhere in it. -/
def ResourceKind.decode? {σ : Type} [JsonLeaf σ] (d : Document σ) : Option ResourceKind := do
  let (tag, content) ← (← d.json?).tagged?
  match tag with
  | "realm" => (RealmData.decode? content).map .realm
  | "repository" => (RepositoryData.decode? content).map .repository
  | "dockerfile" => (DockerfileData.decode? content).map .dockerfile
  | "docker_image" => (DockerImageData.decode? content).map .dockerImage
  | "scan_config" => (ScanConfigData.decode? content).map .scanConfig
  | "flag" => (FlagData.decode? content).map .flag
  | _ => none

/-! ## 2. Resources -/

def Resource.encode (r : Resource) : Json :=
  .table
    [("common", .table <|
        [("id", r.id.encode), ("name", Json.text r.name)]
        ++ Json.optionalEntry "description" r.description
        ++ [("created_at", r.createdAt.encode), ("parent_id", ObjectId.encodeOptional r.parentId),
            ("acl_entry_ids", ObjectId.encodeAll r.entryIds)]),
     ("kind", r.kind.encode)]

def Resource.decode? {σ : Type} [JsonLeaf σ] (d : Document σ) : Option Resource := do
  let r ← d.record? ["common", "kind"]
  let c ← r.required "common" fun d =>
    d.record? ["id", "name", "description", "created_at", "parent_id", "acl_entry_ids"]
  return { id := ← c.required "id" ObjectId.decode?
           name := ← c.required "name" Document.text?
           description := ← c.orElse "description" none (Document.optional? Document.text?)
           createdAt := ← c.required "created_at" Timestamp.decode?
           parentId := ← c.optional "parent_id" ObjectId.decode?
           entryIds := ← c.orElse "acl_entry_ids" [] ObjectId.decodeAll?
           kind := ← r.required "kind" ResourceKind.decode? }

/-! ## 3. Round trips -/

theorem optional?_encodeOptional (id : Option ObjectId) :
    (ObjectId.encodeOptional id).optional? ObjectId.decode? = some id := by
  cases id <;> rfl

theorem optional?_optionalText (s : Option String) :
    (Json.optionalText s).optional? Document.text? = some s := by
  cases s <;> rfl

theorem RealmData.decode?_entries (d : RealmData) : decode? (.table d.entries) = some d := by
  simp [decode?, entries, Document.record?, Record.required, Record.optional,
    Record.lookup_cons_of_ne, optional?_encodeOptional, optional?_optionalText,
    ObjectId.decodeAll?_encodeAll]

theorem RepositoryData.decode?_entries (d : RepositoryData) :
    decode? (.table d.entries) = some d := by
  simp [decode?, entries, Document.record?, Record.required, Record.optional,
    Record.lookup_cons_of_ne, optional?_optionalText, ObjectId.decodeAll?_encodeAll]

theorem DockerfileData.decode?_entries (d : DockerfileData) :
    decode? (.table d.entries) = some d := by
  simp [decode?, entries, Document.record?, Record.required, Record.lookup_cons_of_ne,
    Document.text?, Scalar.text?, ObjectId.decodeAll?_encodeAll]

theorem DockerImageData.decode?_entries (d : DockerImageData) :
    decode? (.table d.entries) = some d := by
  simp [decode?, entries, Document.record?, Record.required, Record.optional,
    Record.lookup_cons_of_ne, optional?_optionalText, ObjectId.decodeAll?_encodeAll]

theorem ScanConfigData.decode?_entries (d : ScanConfigData) :
    decode? (.table d.entries) = some d := by
  simp [decode?, entries, Document.record?, Record.required, Record.optional,
    Record.lookup_cons_of_ne, Document.text?, Scalar.text?, optional?_encodeOptional,
    optional?_optionalText, ObjectId.decodeAll?_encodeAll]

theorem FlagData.decode?_entries (d : FlagData) : decode? (.table d.entries) = some d := by
  simp [decode?, entries, Document.record?, Record.required, Record.lookup_cons_of_ne,
    Document.text?, Scalar.text?, ObjectId.decodeAll?_encodeAll]

theorem ResourceKind.decode?_encode (k : ResourceKind) : decode? k.encode = some k := by
  cases k with
  | realm d =>
    simp only [decode?, encode, type, ResourceType.tag, Document.json?_eq_some,
      Option.bind_eq_bind, Option.bind_some]
    rw [Document.tagged?_cons rfl (by simp [RealmData.entries])]
    simp [RealmData.decode?_entries]
  | repository d =>
    simp only [decode?, encode, type, ResourceType.tag, Document.json?_eq_some,
      Option.bind_eq_bind, Option.bind_some]
    rw [Document.tagged?_cons rfl (by simp [RepositoryData.entries])]
    simp [RepositoryData.decode?_entries]
  | dockerfile d =>
    simp only [decode?, encode, type, ResourceType.tag, Document.json?_eq_some,
      Option.bind_eq_bind, Option.bind_some]
    rw [Document.tagged?_cons rfl (by simp [DockerfileData.entries])]
    simp [DockerfileData.decode?_entries]
  | dockerImage d =>
    simp only [decode?, encode, type, ResourceType.tag, Document.json?_eq_some,
      Option.bind_eq_bind, Option.bind_some]
    rw [Document.tagged?_cons rfl (by simp [DockerImageData.entries])]
    simp [DockerImageData.decode?_entries]
  | scanConfig d =>
    simp only [decode?, encode, type, ResourceType.tag, Document.json?_eq_some,
      Option.bind_eq_bind, Option.bind_some]
    rw [Document.tagged?_cons rfl (by simp [ScanConfigData.entries])]
    simp [ScanConfigData.decode?_entries]
  | flag d =>
    simp only [decode?, encode, type, ResourceType.tag, Document.json?_eq_some,
      Option.bind_eq_bind, Option.bind_some]
    rw [Document.tagged?_cons rfl (by simp [FlagData.entries])]
    simp [FlagData.decode?_entries]

theorem Resource.decode?_encode (r : Resource) : decode? r.encode = some r := by
  obtain ⟨id, name, description, createdAt, parentId, entryIds, kind⟩ := r
  have hd (s : String) : (Json.text s).optional? Document.text? = some (some s) := rfl
  cases description <;>
    simp [decode?, encode, Json.optionalEntry, Document.record?, Record.required, Record.optional,
      Record.orElse, Record.lookup_cons_of_ne, Document.text?, Scalar.text?, hd,
      ObjectId.decode?_encode, Timestamp.decode?_encode, optional?_encodeOptional,
      ObjectId.decodeAll?_encodeAll, ResourceKind.decode?_encode]

/-! ## 4. What is shown -/

/-- The entries that show a resource. -/
def Resource.view (r : Resource) : List (String × Json) :=
  [("id", r.id.encode), ("name", Json.text r.name),
   ("description", Json.optionalText r.description),
   ("parent_id", ObjectId.encodeOptional r.parentId),
   ("acl_entry_ids", ObjectId.encodeAll r.entryIds),
   ("resource_type", Json.text r.type.text), ("is", Json.texts [r.type.tag]),
   ("kind", r.kind.encode)]

end AccessControl
