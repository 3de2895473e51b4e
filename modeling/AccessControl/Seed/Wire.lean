/-
  AccessControl/Seed/Wire.lean
  ============================
  **Seeds as documents.**

  Seeds are read from documents in any notation, and shown as JSON values with all
  their fields.  The file of a seed is written in YAML.

  ## Main definitions

  * `Seed.decode?`, `Seed.encode`: seeds read and shown;
  * `Seed.ofYaml?`: the seed that a YAML text holds.

  ## Main statements

  * `Seed.decode?_encode`: a seed that is shown reads back.
-/
import AccessControl.Permission.Wire
import AccessControl.Seed.Basic
import AccessControl.Yaml.Parser

namespace AccessControl

variable {σ : Type} [Scalar σ]

/-! ## 1. Reading -/

def Record.text? (r : Record σ) (name : String) : Option (Option String) :=
  r.orElse name none (Document.optional? Document.text?)

def Record.list? {α : Type} (r : Record σ) (name : String) (read : Document σ → Option α) :
    Option (List α) :=
  r.orElse name [] (Document.list? read)

def UserSeed.decode? (d : Document σ) : Option UserSeed := do
  let r ← d.record? ["user_id", "name", "password"]
  return { login := ← r.required "user_id" Document.text?
           name := ← r.text? "name"
           password := ← r.required "password" Document.text? }

def GroupSeed.decode? (d : Document σ) : Option GroupSeed := do
  let r ← d.record? ["name", "description", "members"]
  return { name := ← r.required "name" Document.text?
           description := ← r.text? "description"
           members := ← r.list? "members" Document.text? }

def DockerfileSeed.decode? (d : Document σ) : Option DockerfileSeed := do
  let r ← d.record? ["name", "path"]
  return { name := ← r.required "name" Document.text?
           path := ← r.required "path" Document.text? }

def ImageSeed.decode? (d : Document σ) : Option ImageSeed := do
  let r ← d.record? ["name", "signature"]
  return { name := ← r.required "name" Document.text?
           signature := ← r.text? "signature" }

def ScanConfigSeed.decode? (d : Document σ) : Option ScanConfigSeed := do
  let r ← d.record? ["name", "provider"]
  return { name := ← r.required "name" Document.text?
           provider := ← r.required "provider" Document.text? }

def FlagSeed.decode? (d : Document σ) : Option FlagSeed := do
  let r ← d.record? ["name", "image_path"]
  return { name := ← r.required "name" Document.text?
           imagePath := ← r.required "image_path" Document.text? }

def RepositorySeed.decode? (d : Document σ) : Option RepositorySeed := do
  let r ← d.record? ["name", "description", "dockerfiles", "images", "scan_configs", "flags"]
  return { name := ← r.required "name" Document.text?
           description := ← r.text? "description"
           dockerfiles := ← r.list? "dockerfiles" DockerfileSeed.decode?
           images := ← r.list? "images" ImageSeed.decode?
           scanConfigs := ← r.list? "scan_configs" ScanConfigSeed.decode?
           flags := ← r.list? "flags" FlagSeed.decode? }

def RealmSeed.decode? (d : Document σ) : Option RealmSeed := do
  let r ← d.record? ["name", "description", "users", "groups", "repositories"]
  return { name := ← r.required "name" Document.text?
           description := ← r.text? "description"
           users := ← r.list? "users" UserSeed.decode?
           groups := ← r.list? "groups" GroupSeed.decode?
           repositories := ← r.list? "repositories" RepositorySeed.decode? }

def GrantSeed.decode? (d : Document σ) : Option GrantSeed := do
  let r ← d.record? ["resource", "user", "group", "permissions"]
  return { resource := ← r.required "resource" Document.text?
           user := ← r.text? "user"
           group := ← r.text? "group"
           permissions := ← r.required "permissions" (Document.list? Permission.decode?) }

def Seed.decode? (d : Document σ) : Option Seed := do
  let r ← d.record? ["realms", "grants"]
  return { realms := ← r.list? "realms" RealmSeed.decode?
           grants := ← r.list? "grants" GrantSeed.decode? }

/-! ## 2. Showing -/

def UserSeed.encode (u : UserSeed) : Json :=
  .table [("user_id", Json.text u.login), ("name", Json.optional Json.text u.name),
    ("password", Json.text u.password)]

def GroupSeed.encode (g : GroupSeed) : Json :=
  .table [("name", Json.text g.name), ("description", Json.optional Json.text g.description),
    ("members", .list (g.members.map Json.text))]

def DockerfileSeed.encode (d : DockerfileSeed) : Json :=
  .table [("name", Json.text d.name), ("path", Json.text d.path)]

def ImageSeed.encode (i : ImageSeed) : Json :=
  .table [("name", Json.text i.name), ("signature", Json.optional Json.text i.signature)]

def ScanConfigSeed.encode (c : ScanConfigSeed) : Json :=
  .table [("name", Json.text c.name), ("provider", Json.text c.provider)]

def FlagSeed.encode (f : FlagSeed) : Json :=
  .table [("name", Json.text f.name), ("image_path", Json.text f.imagePath)]

def RepositorySeed.encode (r : RepositorySeed) : Json :=
  .table [("name", Json.text r.name), ("description", Json.optional Json.text r.description),
    ("dockerfiles", .list (r.dockerfiles.map DockerfileSeed.encode)),
    ("images", .list (r.images.map ImageSeed.encode)),
    ("scan_configs", .list (r.scanConfigs.map ScanConfigSeed.encode)),
    ("flags", .list (r.flags.map FlagSeed.encode))]

def RealmSeed.encode (r : RealmSeed) : Json :=
  .table [("name", Json.text r.name), ("description", Json.optional Json.text r.description),
    ("users", .list (r.users.map UserSeed.encode)),
    ("groups", .list (r.groups.map GroupSeed.encode)),
    ("repositories", .list (r.repositories.map RepositorySeed.encode))]

def GrantSeed.encode (g : GrantSeed) : Json :=
  .table [("resource", Json.text g.resource), ("user", Json.optional Json.text g.user),
    ("group", Json.optional Json.text g.group),
    ("permissions", .list (g.permissions.map Permission.encode))]

def Seed.encode (s : Seed) : Json :=
  .table [("realms", .list (s.realms.map RealmSeed.encode)),
    ("grants", .list (s.grants.map GrantSeed.encode))]

/-! ## 3. Round trips -/

theorem UserSeed.decode?_encode (u : UserSeed) : decode? u.encode = some u := by
  simp [decode?, encode, Document.record?, Record.required, Record.orElse, Record.text?,
    Record.lookup_cons_of_ne, Json.optional?_text, Json.text?_text]

theorem GroupSeed.decode?_encode (g : GroupSeed) : decode? g.encode = some g := by
  simp [decode?, encode, Document.record?, Record.required, Record.orElse, Record.text?,
    Record.list?, Record.lookup_cons_of_ne, Json.optional?_text, Json.text?_text,
    Document.list?_map Json.text?_text]

theorem DockerfileSeed.decode?_encode (d : DockerfileSeed) : decode? d.encode = some d := rfl

theorem ImageSeed.decode?_encode (i : ImageSeed) : decode? i.encode = some i := by
  simp [decode?, encode, Document.record?, Record.required, Record.orElse, Record.text?,
    Record.lookup_cons_of_ne, Json.optional?_text, Json.text?_text]

theorem ScanConfigSeed.decode?_encode (c : ScanConfigSeed) : decode? c.encode = some c := rfl

theorem FlagSeed.decode?_encode (f : FlagSeed) : decode? f.encode = some f := rfl

theorem RepositorySeed.decode?_encode (r : RepositorySeed) : decode? r.encode = some r := by
  simp [decode?, encode, Document.record?, Record.required, Record.orElse, Record.text?,
    Record.list?, Record.lookup_cons_of_ne, Json.optional?_text, Json.text?_text,
    Document.list?_map DockerfileSeed.decode?_encode, Document.list?_map ImageSeed.decode?_encode,
    Document.list?_map ScanConfigSeed.decode?_encode, Document.list?_map FlagSeed.decode?_encode]

theorem RealmSeed.decode?_encode (r : RealmSeed) : decode? r.encode = some r := by
  simp [decode?, encode, Document.record?, Record.required, Record.orElse, Record.text?,
    Record.list?, Record.lookup_cons_of_ne, Json.optional?_text, Json.text?_text,
    Document.list?_map UserSeed.decode?_encode, Document.list?_map GroupSeed.decode?_encode,
    Document.list?_map RepositorySeed.decode?_encode]

theorem GrantSeed.decode?_encode (g : GrantSeed) : decode? g.encode = some g := by
  simp [decode?, encode, Document.record?, Record.required, Record.orElse, Record.text?,
    Record.lookup_cons_of_ne, Json.optional?_text, Json.text?_text,
    Document.list?_map Permission.decode?_encode]

theorem Seed.decode?_encode (s : Seed) : decode? s.encode = some s := by
  simp [decode?, encode, Document.record?, Record.orElse, Record.list?, Record.lookup_cons_of_ne,
    Document.list?_map RealmSeed.decode?_encode, Document.list?_map GrantSeed.decode?_encode]

/-! ## 4. YAML -/

def RepositorySeed.shape : Shape :=
  .record <| Shape.leaves ["name", "description"] ++
    [("dockerfiles", Shape.rows ["name", "path"]), ("images", Shape.rows ["name", "signature"]),
     ("scan_configs", Shape.rows ["name", "provider"]),
     ("flags", Shape.rows ["name", "image_path"])]

def GroupSeed.shape : Shape :=
  .record <| Shape.leaves ["name", "description"] ++ [("members", .list .leaf)]

def RealmSeed.shape : Shape :=
  .record <| Shape.leaves ["name", "description"] ++
    [("users", Shape.rows ["user_id", "name", "password"]), ("groups", .list GroupSeed.shape),
     ("repositories", .list RepositorySeed.shape)]

def GrantSeed.shape : Shape :=
  .record <| Shape.leaves ["resource", "user", "group"] ++ [("permissions", .list .leaf)]

def Seed.shape : Shape :=
  .record [("realms", .list RealmSeed.shape), ("grants", .list GrantSeed.shape)]

/-- The seed that a text holds. -/
def Seed.ofYaml? (text : String) : Option Seed := (Yaml.parse? Seed.shape text).bind decode?

end AccessControl
