/-
  AccessControl/Settings/Basic.lean
  =================================
  **Settings: what a deployment may choose.**

  Settings are read from a file, and two of them can be overridden by the
  environment.  Durations are kept as the texts in which they were given, so that
  settings can be shown again as they were; whether a text is a duration is checked
  later.

  ## Main definitions

  * `Settings`, `Settings.default`: the settings, and what holds when they are left
    out;
  * `Settings.overridden`: the settings under an environment.

  ## Main statements

  * `overridden_overridden`: overriding twice is overriding once.
-/

namespace AccessControl

/-! ## 1. Settings -/

structure SessionSettings where
  cookieName : String
  maxAgeSeconds : UInt64
  secure : Bool
  idleLimit : Option String
deriving DecidableEq, Repr

structure LoginSettings where
  maxFailures : Option UInt32
  window : String
deriving DecidableEq, Repr

/-- What a deployment may choose. -/
structure Settings where
  serviceName : String
  secretSalt : String
  authorize : Bool
  session : SessionSettings
  login : LoginSettings
  seedPath : Option String
deriving DecidableEq, Repr

def SessionSettings.default : SessionSettings :=
  { cookieName := "SessionId", maxAgeSeconds := 86400, secure := false, idleLimit := some "30m" }

def LoginSettings.default : LoginSettings := { maxFailures := none, window := "15m" }

def Settings.default : Settings :=
  { serviceName := "safeharbor", secretSalt := "", authorize := true,
    session := SessionSettings.default, login := LoginSettings.default, seedPath := none }

/-! ## 2. The environment -/

structure Environment where
  salt : Option String
  authorize : Option String
deriving DecidableEq, Repr

namespace Environment

def saltName : String := "SAFEHARBOR_SECRET_SALT"

def authorizeName : String := "SAFEHARBOR_AUTHORIZE"

def truth? (text : String) : Option Bool :=
  if text = "true" then some true else if text = "false" then some false else none

end Environment

namespace Settings

/-- The settings under an environment: a salt that is not empty replaces the salt, and
    a truth value replaces the authorization switch. -/
def overridden (s : Settings) (e : Environment) : Settings :=
  { s with
    secretSalt := (e.salt.filter fun salt => !salt.isEmpty).getD s.secretSalt
    authorize := (e.authorize.bind Environment.truth?).getD s.authorize }

/-- Overriding twice is overriding once. -/
theorem overridden_overridden (s : Settings) (e : Environment) :
    (s.overridden e).overridden e = s.overridden e := by
  unfold overridden
  cases e.salt.filter (fun salt => !salt.isEmpty) <;>
    cases e.authorize.bind Environment.truth? <;> rfl

end Settings

end AccessControl
