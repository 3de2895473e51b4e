/-
  AccessControl/Failure/Named.lean
  ================================
  **The failures that the library itself reports.**

  One definition a failure: its code, what it tells the client and the developer,
  and the details by which logs can be searched.

  ## Main definitions

  * `Failure.noSuch`, `conflict`, `unavailable`, `badRequest`, `internal`: of a store;
  * `Failure.missingSalt`, `unreadable`: of digests and signatures;
  * `Failure.unauthenticated`, `invalidSession`, `identityUnresolved`,
    `forbiddenAction`, `tooManyAttempts`, `invalidMask`, `providerUnavailable`,
    `invalidSettings`: of logins and decisions;
  * `Failure.invalidSetting`: of a configuration.
-/
import AccessControl.Failure.Basic

namespace AccessControl.Failure

/-! ## 1. Stores -/

/-- Nothing of the kind `kind` has the id. -/
def noSuch (kind id : String) : Failure :=
  ((ofCode Code.notFound).withUser s!"No {kind} with id {id}").withDev s!"{kind} {id} not found"
    |>.withDetail "resource" (Json.text id)

/-- A name is taken. -/
def conflict (message : String) : Failure := (ofCode Code.conflict).withDev message

def unavailable (message : String) : Failure := (ofCode Code.storageUnavailable).withDev message

/-- The request breaks a rule, and the client is told which. -/
def badRequest (message : String) : Failure :=
  ((ofCode Code.validation).withUser message).withDev message

/-- The store met a state that it rules out. -/
def internal (message : String) : Failure := (ofCode Code.internal).withDev message

/-! ## 2. Digests and signatures -/

def missingSalt : Failure :=
  ((ofCode Code.validation).withUser "A secret salt must be configured.").withDev "salt is empty"

def unreadable (message : String) : Failure :=
  ((ofCode Code.storageUnavailable).withUser "Unable to read content for signing.").withDev message

/-! ## 3. Logins and decisions -/

/-- Nobody is logged in, for the reason that developers are told. -/
def unauthenticated (message : String) : Failure := (ofCode Code.unauthenticated).withDev message

def invalidSession (message : String) : Failure := (ofCode Code.invalidSession).withDev message

/-- No user has the login of the session. -/
def identityUnresolved (login : String) : Failure :=
  (ofCode Code.identityUnresolved).withUser
      s!"user object cannot be identified from user id {login}"
    |>.withDetail "user_id" (Json.text login)

/-- The user may not perform the action on the resource. -/
def forbiddenAction (action name id : String) : Failure :=
  (ofCode Code.forbidden).withUser s!"Unauthorized: cannot perform {action} on {name}"
    |>.withDetail "resource" (Json.text id) |>.withDetail "action" (Json.text action)

/-- Logins are blocked after this many failures. -/
def tooManyAttempts (failures : Nat) : Failure :=
  (ofCode Code.tooManyAttempts).withDev s!"{failures} recent failed attempts"

/-- The request does not name one action. -/
def invalidMask (message : String) : Failure :=
  ((ofCode Code.invalidActionMask).withUser message).withDev message

def providerUnavailable (message : String) : Failure :=
  (ofCode Code.providerUnavailable).withDev message

/-- A service was set up with settings that it does not accept. -/
def invalidSettings (message : String) : Failure :=
  ((ofCode Code.validation).withUser message).withDev message

/-- One setting is not acceptable, for the reason that developers are told. -/
def invalidSetting (field message : String) : Failure :=
  ((ofCode Code.validation).withUser s!"invalid configuration: {field}").withDev message
    |>.withDetail "field" (Json.text field)

end AccessControl.Failure
