/-
  AccessControl/Settings/Wire.lean
  ================================
  **Settings as documents.**

  Settings are read from documents in any notation, and shown as JSON values.  A
  setting that is left out has its default; an optional one may also be absent
  explicitly, which is not the same.  The salt is read but never shown.  The files of a
  deployment are written in YAML.

  ## Main definitions

  * `Settings.decode?`, `Settings.encode`: settings read and shown;
  * `Settings.ofYaml?`: the settings that a YAML text holds.

  ## Main statements

  * `decode?_encode`: settings that are shown read back, without their salt.
-/
import AccessControl.Json.Value
import AccessControl.Settings.Basic
import AccessControl.Yaml.Parser

namespace AccessControl

variable {σ : Type} [Scalar σ]

/-! ## 1. Reading -/

def SessionSettings.decode? (d : Document σ) : Option SessionSettings := do
  let r ← d.record? ["cookie_name", "max_age_secs", "secure", "idle_ttl"]
  return { cookieName := ← r.orElse "cookie_name" default.cookieName Document.text?
           maxAgeSeconds := ← r.orElse "max_age_secs" default.maxAgeSeconds Document.word64?
           secure := ← r.orElse "secure" default.secure Document.flag?
           idleLimit := ← r.orElse "idle_ttl" default.idleLimit
             (Document.optional? Document.text?) }

def LoginSettings.decode? (d : Document σ) : Option LoginSettings := do
  let r ← d.record? ["max_failures", "window"]
  return { maxFailures := ← r.orElse "max_failures" default.maxFailures
             (Document.optional? Document.word32?)
           window := ← r.orElse "window" default.window Document.text? }

def Settings.decode? (d : Document σ) : Option Settings := do
  let r ← d.record?
    ["service_name", "secret_salt", "authorize", "session", "login", "seed_path"]
  return { serviceName := ← r.orElse "service_name" default.serviceName Document.text?
           secretSalt := ← r.orElse "secret_salt" default.secretSalt Document.text?
           authorize := ← r.orElse "authorize" default.authorize Document.flag?
           session := ← r.orElse "session" default.session SessionSettings.decode?
           login := ← r.orElse "login" default.login LoginSettings.decode?
           seedPath := ← r.orElse "seed_path" default.seedPath
             (Document.optional? Document.text?) }

/-! ## 2. Showing -/

def SessionSettings.encode (s : SessionSettings) : Json :=
  .table [("cookie_name", Json.text s.cookieName),
    ("max_age_secs", Json.word64 s.maxAgeSeconds), ("secure", Json.bool s.secure),
    ("idle_ttl", Json.optional Json.text s.idleLimit)]

def LoginSettings.encode (s : LoginSettings) : Json :=
  .table [("max_failures", Json.optional Json.word32 s.maxFailures),
    ("window", Json.text s.window)]

/-- Settings as a value, without the salt. -/
def Settings.encode (s : Settings) : Json :=
  .table [("service_name", Json.text s.serviceName), ("authorize", Json.bool s.authorize),
    ("session", s.session.encode), ("login", s.login.encode),
    ("seed_path", Json.optional Json.text s.seedPath)]

/-! ## 3. The round trip -/

theorem SessionSettings.decode?_encode (s : SessionSettings) : decode? s.encode = some s := by
  simp [decode?, encode, Document.record?, Record.orElse, Record.lookup_cons_of_ne,
    Json.word64?_word64, Json.optional?_text, Document.text?, Document.flag?, Scalar.text?,
    Scalar.flag?]

theorem LoginSettings.decode?_encode (s : LoginSettings) : decode? s.encode = some s := by
  have limit := Json.optional?_optional Json.word32?_word32
    (fun n => by simp [Json.word32]) s.maxFailures
  simp [decode?, encode, Document.record?, Record.orElse, Record.lookup_cons_of_ne, limit,
    Document.text?, Scalar.text?]

/-- Settings that are shown read back, without their salt. -/
theorem Settings.decode?_encode (s : Settings) :
    decode? s.encode = some { s with secretSalt := "" } := by
  simp [decode?, encode, Document.record?, Record.orElse, Record.lookup_cons_of_ne,
    Json.optional?_text, SessionSettings.decode?_encode, LoginSettings.decode?_encode,
    Document.text?, Document.flag?, Scalar.text?, Scalar.flag?, default]

/-! ## 4. YAML -/

def Settings.shape : Shape :=
  .record <| Shape.leaves ["service_name", "secret_salt", "authorize", "seed_path"] ++
    [("session", .record (Shape.leaves ["cookie_name", "max_age_secs", "secure", "idle_ttl"])),
     ("login", .record (Shape.leaves ["max_failures", "window"]))]

/-- The settings that a text holds. -/
def Settings.ofYaml? (text : String) : Option Settings :=
  (Yaml.parse? Settings.shape text).bind decode?

end AccessControl
