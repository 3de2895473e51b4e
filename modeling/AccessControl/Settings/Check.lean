/-
  AccessControl/Settings/Check.lean
  =================================
  **Checking settings.**

  Settings are acceptable if there is a salt, the cookie can be named and lives for
  some time, the limit on failed logins lets anyone in, and the durations can be
  read.  The checks are made in this order and the first that fails is reported.
  From acceptable settings follow the policies of sessions and logins.  Nothing here
  depends on how durations are written: their reader is an argument.

  ## Main definitions

  * `idleLimit`: the limit that a text stands for;
  * `SettingsFault`: what can be wrong, with the setting and the words for it;
  * `Settings.sessionPolicy`, `Settings.loginPolicy`, `Settings.validate`.

  ## Main statements

  * `validate_eq_ok`: settings are acceptable exactly when they pass each check.
-/
import AccessControl.Duration.Parser
import AccessControl.Failure.Named
import AccessControl.Session.Policy
import AccessControl.Settings.Basic
import AccessControl.Text.White

namespace AccessControl

/-! ## 1. Idle limits -/

inductive LimitFault where
  | unreadable (text : String)
  | zero
deriving DecidableEq, Repr

def LimitFault.message : LimitFault → String
  | .unreadable text => "invalid ttl format: " ++ text
  | .zero => "ttl must be positive"

/-- The limit that an optional text stands for.  There is no limit if there is no text,
    or if it says `never` in any case of letters; otherwise it is a duration, and not
    zero. -/
def idleLimit (text : Option String) (read : DurationReader := Duration.parse) :
    Except LimitFault (Option Duration) :=
  match text with
  | none => .ok none
  | some text =>
    let bare := Text.trim text.toList
    if Text.sameIgnoringCase bare "never".toList then .ok none
    else
      match read (String.ofList bare) with
      | .error _ => .error (.unreadable (String.ofList bare))
      | .ok d => if d.nanos = 0 then .error .zero else .ok (some d)

theorem nanos_pos_of_idleLimit {text : Option String} {read : DurationReader} {d : Duration}
    (h : idleLimit text read = .ok (some d)) : 0 < d.nanos := by
  unfold idleLimit at h
  split at h
  · simp at h
  · dsimp only at h
    split at h
    · simp at h
    · split at h
      · simp at h
      · split at h
        · simp at h
        · next hd =>
          simp only [Except.ok.injEq, Option.some.injEq] at h
          subst h
          exact Nat.pos_of_ne_zero hd

/-! ## 2. Faults -/

/-- What can be wrong with settings. -/
inductive SettingsFault where
  | noSalt
  | cookieName (name : String)
  | noMaxAge
  | noFailureAllowed
  /-- The idle limit cannot be read. -/
  | idleLimit (fault : LimitFault)
  | window (text : String) (fault : DurationFault)
deriving DecidableEq, Repr

namespace SettingsFault

def setting : SettingsFault → String
  | .noSalt => "secret_salt"
  | .cookieName _ => "session.cookie_name"
  | .noMaxAge => "session.max_age_secs"
  | .noFailureAllowed => "login.max_failures"
  | .idleLimit _ => "session.idle_ttl"
  | .window _ _ => "login.window"

def message : SettingsFault → String
  | .noSalt =>
    "secret_salt must be set in the config file or via " ++ Environment.saltName
  | .cookieName name => "'" ++ name ++ "' is not a valid cookie name"
  | .noMaxAge => "cookie max age must be positive"
  | .noFailureAllowed => "a limit of zero would block every login; omit it to disable enforcement"
  | .idleLimit fault => fault.message
  | .window text fault => text ++ ": " ++ fault.message

def failure (f : SettingsFault) : Failure := Failure.invalidSetting f.setting f.message

end SettingsFault

/-! ## 3. Policies and checks -/

/-- The text can be the name of a cookie: it is not empty, and has neither white space
    nor the characters that separate cookies and their parts. -/
def isCookieName (name : String) : Bool :=
  !name.isEmpty && name.toList.all fun c =>
    !Text.isWhite c && !(c == ';' || c == '=' || c == ',')

namespace Settings

/-- The session policy that the settings ask for. -/
def sessionPolicy (s : Settings) (read : DurationReader := Duration.parse) :
    Except SettingsFault SessionPolicy :=
  match AccessControl.idleLimit s.session.idleLimit read with
  | .error fault => .error (.idleLimit fault)
  | .ok limit =>
    .ok { cookieName := s.session.cookieName, maxAgeSeconds := s.session.maxAgeSeconds,
          secure := s.session.secure, idleLimit := limit }

/-- The login policy that the settings ask for. -/
def loginPolicy (s : Settings) (read : DurationReader := Duration.parse) :
    Except SettingsFault LoginPolicy :=
  match read s.login.window with
  | .error fault => .error (.window s.login.window fault)
  | .ok window => .ok { maxFailures := s.login.maxFailures, window := window }

/-- The first fault of the settings, if there is any. -/
def validate (s : Settings) (read : DurationReader := Duration.parse) :
    Except SettingsFault Unit :=
  if s.secretSalt.isEmpty then .error .noSalt
  else if !isCookieName s.session.cookieName then .error (.cookieName s.session.cookieName)
  else if s.session.maxAgeSeconds = 0 then .error .noMaxAge
  else if s.login.maxFailures = some 0 then .error .noFailureAllowed
  else
    match s.sessionPolicy read with
    | .error fault => .error fault
    | .ok _ =>
      match s.loginPolicy read with
      | .error fault => .error fault
      | .ok _ => .ok ()

/-- Settings are acceptable exactly when they pass each check. -/
theorem validate_eq_ok {s : Settings} {read : DurationReader} :
    s.validate read = .ok () ↔
      s.secretSalt.isEmpty = false ∧ isCookieName s.session.cookieName = true ∧
        s.session.maxAgeSeconds ≠ 0 ∧ s.login.maxFailures ≠ some 0 ∧
        (∃ p, s.sessionPolicy read = .ok p) ∧ ∃ p, s.loginPolicy read = .ok p := by
  unfold validate
  by_cases salt : s.secretSalt.isEmpty
  · simp [salt]
  by_cases name : isCookieName s.session.cookieName = false
  · simp [salt, name]
  by_cases age : s.session.maxAgeSeconds = 0
  · simp [salt, name, age]
  by_cases limit : s.login.maxFailures = some 0
  · simp [salt, name, age, limit]
  rcases hs : s.sessionPolicy read with _ | p
  · simp [salt, name, age, limit]
  rcases hl : s.loginPolicy read with _ | q <;> simp [salt, name, age, limit]

end Settings

end AccessControl
