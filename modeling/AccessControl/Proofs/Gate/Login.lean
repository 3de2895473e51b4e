/-
  AccessControl/Proofs/Gate/Login.lean
  ====================================
  **What can become of a login.**

  A login at a gate that checks passwords itself ends in one of five ways.  Credentials
  without a login are turned down, and so are those with a login that nobody has; nothing is
  recorded of either.  A user that is blocked is told so.  A wrong password goes on the record
  of its user and is turned down in the words for an unknown login, and the right one gets a
  session under a new id.  What follows for rows of logins is proved by cases on these.

  ## Main definitions

  * `UserId.refusal`: what the gate says to credentials that are not those of a user;
  * `Store.tried`: a store in which one more attempt of a user is on record;
  * `Gate.Entry`: the five ways;
  * `Gate.recordingAt`: a gate with local logins that reads its clock twice.

  ## Main statements

  * `Gate.entry`: a login ends in one of these ways;
  * `Gate.Entry.run`: it leaves the store as it is, or changes it by one step.
-/
import AccessControl.Gate.Basic
import AccessControl.Proofs.Login.Limiter

namespace AccessControl

open Digest

/-! ## 1. Refusals and records -/

/-- What the gate says to credentials that are not those of a user, whether it is the login
    that is unknown or the password that is wrong. -/
def UserId.refusal (login : UserId) : Failure :=
  if login.value = "" then Failure.unauthenticated EmptyField.userId.message
  else Failure.unauthenticated "unknown user or bad password"

/-- The user with one more attempt on record. -/
def User.tried (u : User) (a : LoginAttempt) : User := { u with attempts := u.attempts ++ [a] }

/-- The store in which one more attempt of a user is on record. -/
def Store.tried (s : Store) (u : User) (a : LoginAttempt) : Store :=
  { s with parties := s.parties.put u.info.id (.user (u.tried a)) }

theorem Step.of_tried {w : Stage} {u : User}
    (stored : w.store.parties.get? u.info.id = some (.user u)) (a : LoginAttempt) :
    Step w ⟨.recordAttempt u.info.id a, true⟩ ⟨w.store.tried u a, w.drawn⟩ := by
  have step := Step.done (w := w) (c := .recordAttempt u.info.id a)
    (Store.recordAttempt_of_stored stored a) nofun
  exact (List.append_nil w.drawn) ▸ step

/-- The gate with local logins, when an attempt goes on record at a time of its own. -/
def Gate.recordingAt (g : Gate) (policy : LoginPolicy) (recorded : Timestamp) : Gate :=
  { g with authenticator := fun asked => Backend.direct.check g.salt policy asked recorded }

/-! ## 2. The ways a login can end -/

section Entries

variable {g : Gate} {policy : LoginPolicy} {now : Moment} {recorded : Timestamp} {nonce : UInt64}
  {c : Credentials} {s : GateState}

/-- The ways a login can end, with the answer and what is behind the gate from then on. -/
inductive Gate.Entry (g : Gate) (policy : LoginPolicy) (now : Moment) (recorded : Timestamp)
    (nonce : UInt64) (c : Credentials) (s : GateState) :
    Except Failure SessionToken × GateState → Prop
  | nameless (empty : c.userId.value = "") :
      Entry g policy now recorded nonce c s (.error c.userId.refusal, s)
  | unknown (named : c.userId.value ≠ "")
      (nobody : ∀ i u, s.store.parties.get? i = some (.user u) → u.userId ≠ c.userId) :
      Entry g policy now recorded nonce c s (.error c.userId.refusal, s)
  | blocked {u : User} {failures : Nat} (named : c.userId.value ≠ "")
      (stored : s.store.parties.get? u.info.id = some (.user u)) (own : u.userId = c.userId)
      (full : policy.blocking? now.date u = some failures) :
      Entry g policy now recorded nonce c s (.error (Failure.tooManyAttempts failures), s)
  | wrong {u : User} (named : c.userId.value ≠ "")
      (stored : s.store.parties.get? u.info.id = some (.user u)) (own : u.userId = c.userId)
      (free : policy.blocking? now.date u = none)
      (differs : g.salt.verifyPassword c.password u.passwordHash = false) :
      Entry g policy now recorded nonce c s
        (.error c.userId.refusal, { s with store := s.store.tried u ⟨recorded, false⟩ })
  | entered {u : User} (named : c.userId.value ≠ "")
      (stored : s.store.parties.get? u.info.id = some (.user u)) (own : u.userId = c.userId)
      (free : policy.blocking? now.date u = none)
      (same : g.salt.verifyPassword c.password u.passwordHash = true) :
      Entry g policy now recorded nonce c s
        (.ok ⟨SessionId.mint g.salt nonce, c.userId⟩,
          ⟨s.store.tried u ⟨recorded, true⟩,
            s.sessions.insert now.elapsed (SessionId.mint g.salt nonce) c⟩)

/-- A login at a gate that checks passwords ends in one of these ways. -/
theorem Gate.entry (sound : s.store.Sound)
    (checks : g.authenticator now.date = Backend.direct.check g.salt policy now.date recorded)
    (nonce : UInt64) (c : Credentials) :
    g.Entry policy now recorded nonce c s (g.login now nonce c s) := by
  -- an empty login is refused before anything is looked up, in words of its own
  by_cases named : c.userId.value = ""
  · have refused : g.login now nonce c s = (.error c.userId.refusal, s) := by
      simp [login, Credentials.validate, UserId.refusal, named]
    exact refused ▸ .nameless named
  · have valid : c.validate = .ok () := if_neg named
    have refusal : c.userId.refusal = Failure.unauthenticated "unknown user or bad password" :=
      if_neg named
    rcases check_cases sound g.salt policy now.date recorded c with
      ⟨nobody, answer⟩ | ⟨u, stored, own, ⟨failures, full, answer⟩ | ⟨free, answer⟩⟩
    · have refused : g.login now nonce c s = (.error c.userId.refusal, s) := by
        simp only [login, valid, checks, answer, refusal]
        rfl
      exact refused ▸ .unknown named nobody
    · have refused : g.login now nonce c s = (.error (Failure.tooManyAttempts failures), s) := by
        simp only [login, valid, checks, answer]
      exact refused ▸ .blocked named stored own full
    · rcases same : g.salt.verifyPassword c.password u.passwordHash with _ | _
      · have refused : g.login now nonce c s =
            (.error c.userId.refusal, { s with store := s.store.tried u ⟨recorded, false⟩ }) := by
          simp only [login, valid, checks, answer, same, refusal]
          rfl
        exact refused ▸ .wrong named stored own free same
      · have admitted : g.login now nonce c s =
            (.ok ⟨SessionId.mint g.salt nonce, c.userId⟩,
              ⟨s.store.tried u ⟨recorded, true⟩,
                s.sessions.insert now.elapsed (SessionId.mint g.salt nonce) c⟩) := by
          obtain ⟨login, password⟩ := c
          obtain rfl : u.userId = login := own
          simp only [Gate.login, valid, checks, answer, same]
          rfl
        exact admitted ▸ .entered named stored own free same

theorem Gate.entry_recordingAt (g : Gate) (policy : LoginPolicy) (now : Moment)
    (recorded : Timestamp) (nonce : UInt64) (c : Credentials) (sound : s.store.Sound) :
    (g.recordingAt policy recorded).Entry policy now recorded nonce c s
      ((g.recordingAt policy recorded).login now nonce c s) :=
  Gate.entry sound rfl nonce c

theorem Gate.login_of_right (sound : s.store.Sound)
    (checks : g.authenticator now.date = Backend.direct.check g.salt policy now.date recorded)
    (named : c.userId.value ≠ "") {i : ObjectId} {u : User}
    (stored : s.store.parties.get? i = some (.user u)) (own : u.userId = c.userId)
    (free : policy.blocking? now.date u = none)
    (same : g.salt.verifyPassword c.password u.passwordHash = true) :
    g.login now nonce c s =
      (.ok ⟨SessionId.mint g.salt nonce, c.userId⟩,
        ⟨s.store.tried u ⟨recorded, true⟩,
          s.sessions.insert now.elapsed (SessionId.mint g.salt nonce) c⟩) := by
  have entry := Gate.entry sound checks nonce c
  generalize g.login now nonce c s = outcome at entry ⊢
  cases entry with
  | nameless empty => exact absurd empty named
  | unknown _ nobody => exact absurd own (nobody i u stored)
  | blocked _ stored' own' full =>
    obtain ⟨-, rfl⟩ := sound.user_unique stored stored' (own'.trans own.symm)
    rw [free] at full
    cases full
  | wrong _ stored' own' _ differs =>
    obtain ⟨-, rfl⟩ := sound.user_unique stored stored' (own'.trans own.symm)
    rw [same] at differs
    cases differs
  | entered _ stored' own' =>
    obtain ⟨-, rfl⟩ := sound.user_unique stored stored' (own'.trans own.symm)
    rfl

/-- A login leaves the store as it is, or changes it by one step. -/
theorem Gate.Entry.run {outcome : Except Failure SessionToken × GateState}
    (h : g.Entry policy now recorded nonce c s outcome) (drawn : List ObjectId) :
    ∃ log, Run ⟨s.store, drawn⟩ log ⟨outcome.2.store, drawn⟩ := by
  cases h with
  | nameless => exact ⟨[], .stay⟩
  | unknown => exact ⟨[], .stay⟩
  | blocked => exact ⟨[], .stay⟩
  | wrong _ stored => exact ⟨_, .more .stay (Step.of_tried (w := ⟨s.store, drawn⟩) stored _)⟩
  | entered _ stored => exact ⟨_, .more .stay (Step.of_tried (w := ⟨s.store, drawn⟩) stored _)⟩

end Entries

end AccessControl
