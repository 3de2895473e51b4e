/-
  AccessControl/Seed/Basic.lean
  =============================
  **Seeds: stores written down.**

  A seed lists what an empty store is filled with: realms with their users, groups and
  repositories, and grants.  Everything is addressed by name.  The path of a resource
  is the names from its realm down to it with slashes between them, a group is known
  by the path made of its realm's name and its own, and a user by its login.

  ## Main definitions

  * `Seed` and its parts;
  * `RepositorySeed.children`: the resources of a repository, in the order in which they
    are made.
-/
import AccessControl.Permission.Basic
import AccessControl.Resource.Basic

namespace AccessControl

/-! ## 1. Parties -/

structure UserSeed where
  login : String
  name : Option String
  password : String
deriving DecidableEq, Repr

structure GroupSeed where
  name : String
  description : Option String
  members : List String
deriving DecidableEq, Repr

/-! ## 2. Resources -/

structure DockerfileSeed where
  name : String
  path : String
deriving DecidableEq, Repr

structure ImageSeed where
  name : String
  signature : Option String
deriving DecidableEq, Repr

structure ScanConfigSeed where
  name : String
  provider : String
deriving DecidableEq, Repr

structure FlagSeed where
  name : String
  imagePath : String
deriving DecidableEq, Repr

structure RepositorySeed where
  name : String
  description : Option String
  dockerfiles : List DockerfileSeed
  images : List ImageSeed
  scanConfigs : List ScanConfigSeed
  flags : List FlagSeed
deriving DecidableEq, Repr

/-- The names and the data of what a repository holds, in the order in which it is
    made. -/
def RepositorySeed.children (r : RepositorySeed) : List (String × ResourceKind) :=
  r.dockerfiles.map (fun d => (d.name, .newDockerfile d.path))
    ++ r.images.map (fun i => (i.name, .newDockerImage i.signature))
    ++ r.scanConfigs.map (fun c => (c.name, .newScanConfig c.provider))
    ++ r.flags.map (fun f => (f.name, .newFlag f.imagePath))

structure RealmSeed where
  name : String
  description : Option String
  users : List UserSeed
  groups : List GroupSeed
  repositories : List RepositorySeed
deriving DecidableEq, Repr

/-! ## 3. Grants, and the whole -/

/-- A grant on a resource to a user or to a group; exactly one of them is to be named. -/
structure GrantSeed where
  resource : String
  user : Option String
  group : Option String
  permissions : List Permission
deriving DecidableEq, Repr

/-- What a store is filled with. -/
structure Seed where
  realms : List RealmSeed
  grants : List GrantSeed
deriving DecidableEq, Repr

def Seed.users (s : Seed) : List UserSeed := s.realms.flatMap RealmSeed.users

end AccessControl
