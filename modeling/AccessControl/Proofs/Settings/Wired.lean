/-
  AccessControl/Proofs/Settings/Wired.lean
  ========================================
  **Settings that pass the checks can be put to use.**

  Four parts of the program look at settings: the checks, the two policies, and the digests,
  which ask for a salt of their own.  They agree.  What each setting has to be like is said here
  once more, without the functions that check it (`Settings.demands`), in the order in which the
  checks are made.  Settings pass exactly if they meet all demands; then the salt, the cache and
  the gate can be made, and no limit in the policies is zero.  Otherwise the fault that is
  reported is about the first demand that is not met, and nothing is made.  All parts read
  durations in the same way, and nothing depends on which way that is.

  ## Main definitions

  * `CanNameCookie`, `WritesLimit`: names of cookies and written limits;
  * `Settings.demands`: what each setting has to be like;
  * `FirstUnmet`: the first demand that is not met.

  ## Main statements

  * `Settings.validate_ok_iff`: which settings pass;
  * `Settings.firstUnmet_of_validate`: which fault is reported;
  * `Settings.credentials_eq_ok`, `Settings.gate_eq_ok`: what is made of policies;
  * `settings_wire`: all of it.
-/
import AccessControl.Gate.Setup

namespace AccessControl

open Digest

/-! ## 1. Demands -/

/-- The text can name a cookie. -/
def CanNameCookie (name : String) : Prop :=
  name ≠ "" ∧ ∀ x ∈ name.toList, Text.isWhite x = false ∧ x ≠ ';' ∧ x ≠ '=' ∧ x ≠ ','

/-- The text stands for an idle limit: it is left out, or says `never` in any case of letters and
    with any white space around it, or is a duration, with white space around it, that is not
    zero. -/
def WritesLimit (read : DurationReader) (text : Option String) : Prop :=
  ∀ written, text = some written →
    Text.sameIgnoringCase (Text.trim written.toList) "never".toList = true ∨
      ∃ d, read (String.ofList (Text.trim written.toList)) = .ok d ∧ 0 < d.nanos

/-- What each setting has to be like, in the order of the checks. -/
def Settings.demands (s : Settings) (read : DurationReader) : List (String × Prop) :=
  [("secret_salt", s.secretSalt ≠ ""),
   ("session.cookie_name", CanNameCookie s.session.cookieName),
   ("session.max_age_secs", 0 < s.session.maxAgeSeconds),
   ("login.max_failures", s.login.maxFailures ≠ some 0),
   ("session.idle_ttl", WritesLimit read s.session.idleLimit),
   ("login.window", ∃ d, read s.login.window = .ok d)]

/-- Of some demands, the first that is not met is the one on this setting. -/
def FirstUnmet (demands : List (String × Prop)) (setting : String) : Prop :=
  ∃ before demand after, demands = before ++ (setting, demand) :: after ∧
    (∀ met ∈ before, met.2) ∧ ¬demand

section Demands

variable {demands : List (String × Prop)} {setting other : String} {demand : Prop}

theorem firstUnmet_of_not (unmet : ¬demand) : FirstUnmet ((setting, demand) :: demands) setting :=
  ⟨[], demand, demands, rfl, nofun, unmet⟩

theorem FirstUnmet.cons (met : demand) (h : FirstUnmet demands setting) :
    FirstUnmet ((other, demand) :: demands) setting := by
  obtain ⟨before, unmet, after, rfl, all, not⟩ := h
  refine ⟨(other, demand) :: before, unmet, after, rfl, ?_, not⟩
  intro d hd
  rcases List.mem_cons.1 hd with rfl | hd
  · exact met
  · exact all d hd

end Demands

/-! ## 2. The checks -/

theorem isCookieName_iff {name : String} : isCookieName name = true ↔ CanNameCookie name := by
  simp only [isCookieName, CanNameCookie, Bool.and_eq_true, Bool.not_eq_true', List.all_eq_true,
    Bool.or_eq_false_iff, beq_eq_false_iff_ne, String.isEmpty_eq_false_iff, and_assoc]

theorem idleLimit_isOk_iff {text : Option String} {read : DurationReader} :
    (∃ limit, idleLimit text read = .ok limit) ↔ WritesLimit read text := by
  rcases text with _ | written
  · simp [idleLimit, WritesLimit]
  simp only [idleLimit, WritesLimit, Option.some.injEq, forall_eq']
  generalize "never".toList = word
  generalize Text.trim written.toList = bare
  by_cases never : Text.sameIgnoringCase bare word = true
  · simp [never]
  rcases read (String.ofList bare) with fault | d
  · simp [never]
  · by_cases zero : d.nanos = 0
    · simp [never, zero]
    · simp [never, zero, Nat.pos_iff_ne_zero]

namespace Settings

variable {s : Settings} {read : DurationReader}

theorem sessionPolicy_isOk_iff :
    (∃ p, s.sessionPolicy read = .ok p) ↔ WritesLimit read s.session.idleLimit := by
  rw [← idleLimit_isOk_iff, sessionPolicy]
  cases AccessControl.idleLimit s.session.idleLimit read <;> simp

theorem loginPolicy_isOk_iff :
    (∃ p, s.loginPolicy read = .ok p) ↔ ∃ d, read s.login.window = .ok d := by
  rw [loginPolicy]
  cases read s.login.window <;> simp

theorem validate_ok_iff : s.validate read = .ok () ↔ ∀ d ∈ s.demands read, d.2 := by
  rw [validate_eq_ok, sessionPolicy_isOk_iff, loginPolicy_isOk_iff, isCookieName_iff,
    String.isEmpty_eq_false_iff]
  simp [demands, UInt64.pos_iff_ne_zero]

theorem setting_of_sessionPolicy {fault : SettingsFault} (h : s.sessionPolicy read = .error fault) :
    fault.setting = "session.idle_ttl" := by
  unfold sessionPolicy at h
  split at h
  · cases h
    rfl
  · cases h

theorem setting_of_loginPolicy {fault : SettingsFault} (h : s.loginPolicy read = .error fault) :
    fault.setting = "login.window" := by
  unfold loginPolicy at h
  split at h
  · cases h
    rfl
  · cases h

/-- The fault that is reported is about the first demand that is not met. -/
theorem firstUnmet_of_validate {fault : SettingsFault} (h : s.validate read = .error fault) :
    FirstUnmet (s.demands read) fault.setting := by
  -- one check after the other: it fails, or its demand is met and the next one decides
  unfold validate at h
  split at h
  · next empty =>
    cases h
    exact firstUnmet_of_not fun met => met (String.isEmpty_iff.1 empty)
  next salted =>
  refine .cons (fun empty => salted (String.isEmpty_iff.2 empty)) ?_
  split at h
  · next name =>
    cases h
    refine firstUnmet_of_not fun met => ?_
    rw [isCookieName_iff.2 met] at name
    cases name
  next name =>
  refine .cons (isCookieName_iff.1 (by simpa using name)) ?_
  split at h
  · next age =>
    cases h
    exact firstUnmet_of_not fun met => UInt64.pos_iff_ne_zero.1 met age
  next age =>
  refine .cons (UInt64.pos_iff_ne_zero.2 age) ?_
  split at h
  · next limit =>
    cases h
    exact firstUnmet_of_not fun met => met limit
  next limit =>
  refine .cons limit ?_
  rcases session : s.sessionPolicy read with unread | p
  · rw [session] at h
    cases h
    rw [setting_of_sessionPolicy session]
    refine firstUnmet_of_not fun met => ?_
    obtain ⟨p, made⟩ := sessionPolicy_isOk_iff.2 met
    rw [session] at made
    cases made
  refine .cons (sessionPolicy_isOk_iff.1 ⟨p, session⟩) ?_
  rcases login : s.loginPolicy read with unread | q
  · rw [session, login] at h
    cases h
    rw [setting_of_loginPolicy login]
    refine firstUnmet_of_not fun met => ?_
    obtain ⟨q, made⟩ := loginPolicy_isOk_iff.2 met
    rw [login] at made
    cases made
  · rw [session, login] at h
    cases h

/-! ## 3. What is made of settings -/

theorem exists_salt (salted : s.secretSalt ≠ "") :
    ∃ salt, Salt.make? (utf8 s.secretSalt) = .ok salt ∧ salt.bytes = utf8 s.secretSalt := by
  have bytes : utf8 s.secretSalt ≠ [] := by
    intro none
    exact salted (utf8_injective none)
  exact ⟨⟨utf8 s.secretSalt, bytes⟩, dif_neg bytes, rfl⟩

theorem credentials_eq_ok (valid : s.validate read = .ok ()) {p : SessionPolicy}
    (session : s.sessionPolicy read = .ok p) {salt : Salt}
    (salted : Salt.make? (utf8 s.secretSalt) = .ok salt) :
    s.credentials read = .ok (salt, .empty p.idleLimit) := by
  simp only [credentials, valid, session, salted]
  rfl

theorem credentials_eq_error {fault : SettingsFault} (h : s.validate read = .error fault) :
    s.credentials read = .error (.rejected fault) := by
  simp only [credentials, h]
  rfl

theorem gate_eq_ok {p : SessionPolicy} (session : s.sessionPolicy read = .ok p) {q : LoginPolicy}
    (login : s.loginPolicy read = .ok q) (salt : Salt) (b : Backend) :
    s.gate salt b read = .ok
      { salt := salt
        authenticator := b.passwords salt q
        lookups := b.lookups
        cookie := .ofPolicy p
        enabled := s.authorize } := by
  simp only [gate, session, login]
  rfl

theorem idleLimit_of_sessionPolicy {p : SessionPolicy} (h : s.sessionPolicy read = .ok p) :
    AccessControl.idleLimit s.session.idleLimit read = .ok p.idleLimit := by
  unfold sessionPolicy at h
  split at h
  · cases h
  · next limit =>
    cases h
    exact limit

theorem maxFailures_of_loginPolicy {p : LoginPolicy} (h : s.loginPolicy read = .ok p) :
    p.maxFailures = s.login.maxFailures := by
  unfold loginPolicy at h
  split at h
  · cases h
  · cases h
    rfl

end Settings

/-- However durations are read, settings pass the checks exactly if they meet all demands, and
    what is reported otherwise is the first demand that is not met, under the code of invalid
    input and with the setting among the details.  From settings that pass, the salt, the cache
    and the gate in front of any backend are made, and their limits are positive, if there are
    any.  From others the salt and the cache are not made. -/
theorem settings_wire (read : DurationReader) (s : Settings) :
    (s.validate read = .ok () ↔ ∀ d ∈ s.demands read, d.2) ∧
    (s.validate read = .ok () → ∃ salt session login,
      s.sessionPolicy read = .ok session ∧ s.loginPolicy read = .ok login ∧
      s.credentials read = .ok (salt, .empty session.idleLimit) ∧ salt.bytes = utf8 s.secretSalt ∧
      (∀ b, ∃ g, s.gate salt b read = .ok g ∧ g.cookie = .ofPolicy session ∧
        g.authenticator = b.passwords salt login ∧ g.enabled = s.authorize) ∧
      (∀ d, session.idleLimit = some d → 0 < d.nanos) ∧
      ∀ n, login.maxFailures = some n → 0 < n) ∧
    ∀ fault, s.validate read = .error fault →
      FirstUnmet (s.demands read) fault.setting ∧ fault.failure.code = "SCHEMA.VALIDATION_FAILED" ∧
      fault.failure.details.get? "field" = some (Json.text fault.setting) ∧
      s.credentials read = .error (.rejected fault) := by
  refine ⟨Settings.validate_ok_iff, ?_, ?_⟩
  · intro valid
    obtain ⟨salted, -, -, lenient, ⟨p, session⟩, q, login⟩ := Settings.validate_eq_ok.1 valid
    obtain ⟨salt, made, bytes⟩ := Settings.exists_salt (String.isEmpty_eq_false_iff.1 salted)
    refine ⟨salt, p, q, session, login, Settings.credentials_eq_ok valid session made, bytes,
      ?_, ?_, ?_⟩
    · intro b
      exact ⟨_, Settings.gate_eq_ok session login salt b, rfl, rfl, rfl⟩
    · intro d limited
      have written := Settings.idleLimit_of_sessionPolicy session
      rw [limited] at written
      exact nanos_pos_of_idleLimit written
    · intro n limited
      rw [Settings.maxFailures_of_loginPolicy login] at limited
      rw [limited] at lenient
      exact UInt32.pos_iff_ne_zero.2 fun zero => lenient (congrArg some zero)
  · intro fault h
    exact ⟨Settings.firstUnmet_of_validate h, rfl, rfl, Settings.credentials_eq_error h⟩

/-- Settings with a salt, and otherwise as they are when they are left out. -/
def Settings.sample : Settings := { Settings.default with secretSalt := "pepper" }

/-- A salt is all that such settings need. -/
theorem settings_wire_sample :
    ∃ salt limit, Settings.sample.credentials = .ok (salt, .empty limit) ∧
      salt.bytes = utf8 "pepper" := by
  obtain ⟨-, wired, -⟩ := settings_wire Duration.parse Settings.sample
  obtain ⟨salt, session, -, -, -, made, bytes, -⟩ := wired rfl
  exact ⟨salt, session.idleLimit, made, bytes⟩

end AccessControl
