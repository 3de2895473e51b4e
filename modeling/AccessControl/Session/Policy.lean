/-
  AccessControl/Session/Policy.lean
  =================================
  **Policies for sessions and logins.**

  A session policy says how session ids travel and how long an idle session lives; a
  login policy says how many failed logins block further ones.

  ## Main definitions

  * `SessionPolicy`, `LoginPolicy`, and the policies that hold when none is given.
-/
import AccessControl.Duration.Basic

namespace AccessControl

/-- How session ids travel, and how long idle sessions live. -/
structure SessionPolicy where
  cookieName : String
  maxAgeSeconds : UInt64
  secure : Bool
  /-- A session that is idle for longer is forgotten; without a limit it is kept until
      logout. -/
  idleLimit : Option Duration
deriving DecidableEq, Repr

def SessionPolicy.default : SessionPolicy :=
  { cookieName := "SessionId", maxAgeSeconds := 86400, secure := false, idleLimit := none }

/-- When failed logins block further ones.  Attempts are recorded in any case. -/
structure LoginPolicy where
  maxFailures : Option UInt32
  window : Duration
deriving DecidableEq, Repr

def LoginPolicy.default : LoginPolicy :=
  { maxFailures := none, window := Duration.ofSeconds 900 }

end AccessControl
