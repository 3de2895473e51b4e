/-
  AccessControl/Gate/Setup.lean
  =============================
  **From settings to a gate.**

  A program first checks its settings and makes the salt and the session cache from
  them, then the gate.  Whatever is wrong with settings shows in the first step: the
  second never fails after it.

  ## Main definitions

  * `SetupFault`, `SetupFault.causes`: what can go wrong, outermost cause first;
  * `Settings.credentials`: the salt and an empty session cache;
  * `Settings.gate`: the gate.
-/
import AccessControl.Gate.Basic
import AccessControl.Settings.Check

namespace AccessControl

open Digest

/-- Why settings cannot be put to use. -/
inductive SetupFault where
  | rejected (fault : SettingsFault)
  | policy (fault : SettingsFault)
  | salt (failure : Failure)
deriving DecidableEq, Repr

/-- The causes in words, outermost first; `path` is where the settings came from. -/
def SetupFault.causes (path : String) : SetupFault → List String
  | .rejected fault => [s!"Invalid configuration ({path})", fault.failure.summary]
  | .policy fault => [fault.failure.summary]
  | .salt failure => [failure.userMessage]

namespace Settings

/-- The salt and an empty session cache, for settings that pass the checks. -/
def credentials (s : Settings) (read : DurationReader := Duration.parse) :
    Except SetupFault (Salt × SessionCache) := do
  (s.validate read).mapError .rejected
  let policy ← (s.sessionPolicy read).mapError .policy
  let salt ← (Salt.make? (utf8 s.secretSalt)).mapError .salt
  return (salt, SessionCache.empty policy.idleLimit)

/-- The gate in front of a backend, with local logins. -/
def gate (s : Settings) (salt : Salt) (b : Backend) (read : DurationReader := Duration.parse) :
    Except SetupFault Gate := do
  let session ← (s.sessionPolicy read).mapError .policy
  let login ← (s.loginPolicy read).mapError .policy
  return { salt := salt
           authenticator := b.passwords salt login
           lookups := b.lookups
           cookie := SessionCookie.ofPolicy session
           enabled := s.authorize }

end Settings

end AccessControl
