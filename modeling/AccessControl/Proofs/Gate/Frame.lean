/-
  AccessControl/Proofs/Gate/Frame.lean
  ====================================
  **What a login leaves as it was.**

  Behind a gate stand a store and a cache of sessions, and a login may write to both.  The store
  gets one attempt on the record of one user, and the cache one session under a new id; the
  attempt goes on record before the session starts, and not at all for somebody who is turned
  away before the password is compared.  Nothing else is touched, whatever the login comes to.

  Passwords may be digested under another salt than the session ids of the gate.

  ## Main definitions

  * `Gate.checkingAt`: a gate with local logins under a salt of their own;
  * `TurnedAway`: a failure with some code, and nothing done;
  * `Answered`: an attempt that went on record, and its answer;
  * `Store.Tried`: one more attempt of one user is on record, and nothing else was done;
  * `Store.SameButFor`: nothing else was done than this, if anything.

  ## Main statements

  * `Gate.login_turned_away`, `Gate.login_blocked`, `Gate.login_answered`: the ways a login can
    end;
  * `login_writes`: what was written then, and what was not.
-/
import AccessControl.Proofs.Gate.Guard
import AccessControl.Proofs.Gate.Login

namespace AccessControl

open Digest

/-! ## 1. Gates and outcomes -/

/-- The gate with local logins, under a salt of their own, when an attempt goes on record at a
    time of its own. -/
def Gate.checkingAt (g : Gate) (salt : Salt) (policy : LoginPolicy) (recorded : Timestamp) :
    Gate :=
  { g with authenticator := fun asked => Backend.direct.check salt policy asked recorded }

/-- The login failed with some code, and everything is as it was. -/
structure TurnedAway (code : String) (s : GateState)
    (outcome : Except Failure SessionToken × GateState) : Prop where
  answer : ∃ f, outcome.1 = .error f ∧ f.code = code
  same : outcome.2 = s

/-- The second store has one more attempt of one user on record.  All else is the same: other
    parties, what the user is otherwise, the earlier attempts, resources, grants and logins. -/
structure Store.Tried (s : Store) (u : User) (a : LoginAttempt) (t : Store) : Prop where
  own : t.parties.get? u.info.id = some (.user { u with attempts := u.attempts ++ [a] })
  others : ∀ i, i ≠ u.info.id → t.parties.get? i = s.parties.get? i
  resources : t.resources = s.resources
  entries : t.entries = s.entries
  logins : t.logins = s.logins

/-- Nothing but the history of the user with a login has changed, and it has at most grown by
    one attempt. -/
structure Store.SameButFor (login : UserId) (s t : Store) : Prop where
  parties : ∀ i, t.parties.get? i = s.parties.get? i ∨
    ∃ u a, s.parties.get? i = some (.user u) ∧ u.userId = login ∧
      t.parties.get? i = some (.user { u with attempts := u.attempts ++ [a] })
  resources : t.resources = s.resources
  entries : t.entries = s.entries
  logins : t.logins = s.logins

theorem TurnedAway.sameButFor {code : String} {login : UserId} {s : GateState}
    {outcome : Except Failure SessionToken × GateState} (h : TurnedAway code s outcome) :
    s.store.SameButFor login outcome.2.store := by
  rw [h.same]
  exact ⟨fun _ => Or.inl rfl, rfl, rfl, rfl⟩

theorem Store.Tried.sameButFor {s t : Store} {u : User} {a : LoginAttempt} (h : s.Tried u a t)
    (stored : s.parties.get? u.info.id = some (.user u)) : s.SameButFor u.userId t where
  parties i := by
    by_cases own : i = u.info.id
    · subst own
      exact Or.inr ⟨u, a, stored, rfl, h.own⟩
    · exact Or.inl (h.others i own)
  resources := h.resources
  entries := h.entries
  logins := h.logins

theorem Store.tried_tried (s : Store) (u : User) (a : LoginAttempt) :
    s.Tried u a (s.tried u a) where
  own := Shelf.get?_put_self _ _ _
  others _ other := Shelf.get?_put_of_ne _ _ other
  resources := rfl
  entries := rfl
  logins := rfl

/-- An attempt of a user went on record, and the password alone decided: the right one gets a
    session under a new id, next to those that are there, and a wrong one gets nothing. -/
structure Answered (g : Gate) (salt : Salt) (now : Moment) (nonce : UInt64) (c : Credentials)
    (s : GateState) (u : User) (a : LoginAttempt)
    (outcome : Except Failure SessionToken × GateState) : Prop where
  tried : s.store.Tried u a outcome.2.store
  succeeded : a.succeeded = true ↔ u.passwordHash = salt.hashPassword c.password
  entered : a.succeeded = true →
    let id := SessionId.mint g.salt nonce
    outcome.1 = .ok ⟨id, c.userId⟩ ∧ id.verifies g.salt = true ∧
      outcome.2.sessions.idleLimit = s.sessions.idleLimit ∧
      ∀ other, outcome.2.sessions.get? other =
        if other = id then some ⟨c, now.elapsed⟩ else s.sessions.get? other
  refused : a.succeeded = false →
    (∃ f, outcome.1 = .error f ∧ f.code = Code.unauthenticated) ∧
      outcome.2.sessions = s.sessions

theorem UserId.code_refusal (login : UserId) : login.refusal.code = Code.unauthenticated := by
  unfold refusal
  split <;> rfl

/-! ## 2. The ways a login can end -/

section Endings

variable (g : Gate) (salt : Salt) {policy : LoginPolicy} {now : Moment} (recorded : Timestamp)
  (nonce : UInt64) {c : Credentials} {s : GateState}

/-- Who has no login, or one that nobody has, is turned away. -/
theorem Gate.login_turned_away (sound : s.store.Sound)
    (nobody : c.userId.value = "" ∨
      ∀ i u, s.store.parties.get? i = some (.user u) → u.userId ≠ c.userId) :
    TurnedAway Code.unauthenticated s
      ((g.checkingAt salt policy recorded).login now nonce c s) := by
  have refused : (g.checkingAt salt policy recorded).login now nonce c s =
      (.error c.userId.refusal, s) := by
    by_cases named : c.userId.value = ""
    · simp [login, Credentials.validate, UserId.refusal, named]
    · have valid : c.validate = .ok () := if_neg named
      rcases check_cases sound salt policy now.date recorded c with
        ⟨_, answer⟩ | ⟨u, stored, own, _⟩
      · simp only [login, valid, checkingAt, answer, UserId.refusal, if_neg named]
        rfl
      · exact absurd own (nobody.resolve_left named _ u stored)
  rw [refused]
  exact ⟨⟨_, rfl, c.userId.code_refusal⟩, rfl⟩

variable (sound : s.store.Sound) (named : c.userId.value ≠ "") {u : User}
  (stored : s.store.parties.get? u.info.id = some (.user u)) (own : u.userId = c.userId)
include sound named stored own

/-- So is a user that is blocked. -/
theorem Gate.login_blocked (full : policy.blocking? now.date u ≠ none) :
    TurnedAway Code.tooManyAttempts s
      ((g.checkingAt salt policy recorded).login now nonce c s) := by
  have valid : c.validate = .ok () := if_neg named
  rcases check_cases sound salt policy now.date recorded c with
    ⟨nobody, _⟩ | ⟨u', stored', own', ⟨failures, _, answer⟩ | ⟨free, _⟩⟩
  · exact absurd own (nobody _ u stored)
  · have refused : (g.checkingAt salt policy recorded).login now nonce c s =
        (.error (Failure.tooManyAttempts failures), s) := by
      simp only [login, valid, checkingAt, answer]
    rw [refused]
    exact ⟨⟨_, rfl, rfl⟩, rfl⟩
  · obtain ⟨-, rfl⟩ := sound.user_unique stored stored' (own'.trans own.symm)
    exact absurd free full

/-- Any other user is answered. -/
theorem Gate.login_answered (free : policy.blocking? now.date u = none) :
    Answered g salt now nonce c s u ⟨recorded, salt.verifyPassword c.password u.passwordHash⟩
      ((g.checkingAt salt policy recorded).login now nonce c s) := by
  have valid : c.validate = .ok () := if_neg named
  rcases check_cases sound salt policy now.date recorded c with
    ⟨nobody, _⟩ | ⟨u', stored', own', outcome⟩
  · exact absurd own (nobody _ u stored)
  -- logins are unique, so this is the same user
  obtain ⟨-, rfl⟩ := sound.user_unique stored stored' (own'.trans own.symm)
  rcases outcome with ⟨failures, full, _⟩ | ⟨_, answer⟩
  · rw [free] at full
    cases full
  have right : salt.verifyPassword c.password u'.passwordHash = true ↔
      u'.passwordHash = salt.hashPassword c.password := Salt.verifyPassword_iff
  rcases same : salt.verifyPassword c.password u'.passwordHash with _ | _
  · have refused : (g.checkingAt salt policy recorded).login now nonce c s =
        (.error c.userId.refusal, { s with store := s.store.tried u' ⟨recorded, false⟩ }) := by
      simp only [login, valid, checkingAt, answer, same, UserId.refusal, if_neg named]
      rfl
    rw [refused]
    exact
      { tried := s.store.tried_tried u' _
        succeeded := by rw [← right, same]
        entered := by
          intro won
          cases won
        refused := fun _ => ⟨⟨_, rfl, c.userId.code_refusal⟩, rfl⟩ }
  · have admitted : (g.checkingAt salt policy recorded).login now nonce c s =
        (.ok ⟨.mint g.salt nonce, c.userId⟩, ⟨s.store.tried u' ⟨recorded, true⟩,
          s.sessions.insert now.elapsed (.mint g.salt nonce) c⟩) := by
      obtain ⟨login, password⟩ := c
      obtain rfl : u'.userId = login := own
      simp only [Gate.login, valid, checkingAt, answer, same]
      rfl
    rw [admitted]
    exact
      { tried := s.store.tried_tried u' _
        succeeded := by rw [← right, same]
        entered := by
          intro _ id
          refine ⟨rfl, SessionId.verifies_mint g.salt nonce, rfl, fun other => ?_⟩
          exact SessionCache.get?_insert s.sessions now.elapsed id other c
        refused := by
          intro lost
          cases lost }

end Endings

/-! ## 3. What is written -/

/-- This holds of every login at a gate with local logins, before a store that can be reached.
    Without a login, or with one that nobody has, it fails as unauthenticated; while the user is
    blocked, it fails with too many attempts; and then neither the store nor the cache changes.
    Otherwise exactly one attempt goes on the record of the user, and succeeded exactly if the
    digest of the password is the stored one.  If so, the answer is the token of the user, under
    an id that was minted for it and verifies, and the cache has the credentials under this id;
    if not, the login fails as unauthenticated, and the cache is the same.  Whatever became of
    it, nothing else in the store has changed. -/
theorem login_writes (g : Gate) (salt : Salt) (policy : LoginPolicy) (now : Moment)
    (recorded : Timestamp) (nonce : UInt64) (c : Credentials) {s : GateState}
    (reached : Reached s.store) :
    let outcome := (g.checkingAt salt policy recorded).login now nonce c s
    let nobody := ∀ i u, s.store.parties.get? i = some (.user u) → u.userId ≠ c.userId
    (c.userId.value = "" ∨ nobody → TurnedAway Code.unauthenticated s outcome) ∧
    (∀ i u, s.store.parties.get? i = some (.user u) → u.userId = c.userId →
      c.userId.value ≠ "" →
        (policy.blocking? now.date u ≠ none → TurnedAway Code.tooManyAttempts s outcome) ∧
        (policy.blocking? now.date u = none →
          ∃ a, a.time = recorded ∧ Answered g salt now nonce c s u a outcome)) ∧
    s.store.SameButFor c.userId outcome.2.store := by
  intro outcome nobody
  have sound := reached.sound
  have own (i : ObjectId) (u : User) (stored : s.store.parties.get? i = some (.user u)) :
      s.store.parties.get? u.info.id = some (.user u) := by
    have keyed : u.info.id = i := sound.parties i (.user u) stored
    rw [keyed, stored]
  refine ⟨g.login_turned_away salt recorded nonce sound, ?_, ?_⟩
  · intro i u stored known named
    have stored := own i u stored
    exact ⟨g.login_blocked salt recorded nonce sound named stored known,
      fun free => ⟨_, rfl, g.login_answered salt recorded nonce sound named stored known free⟩⟩
  · by_cases turned : c.userId.value = "" ∨ nobody
    · exact (g.login_turned_away salt recorded nonce sound turned).sameButFor
    · obtain ⟨named, known⟩ := not_or.1 turned
      simp only [nobody, Classical.not_forall, Classical.not_not] at known
      obtain ⟨i, u, stored, known⟩ := known
      have stored := own i u stored
      by_cases free : policy.blocking? now.date u = none
      · rw [← known]
        exact (g.login_answered salt recorded nonce sound named stored known free).tried.sameButFor
          stored
      · exact (g.login_blocked salt recorded nonce sound named stored known free).sameButFor

/-- The right password of the sample's user is answered, and nobody has an empty login.  Once a
    failure is on record, a limit of one turns the user away. -/
theorem login_writes_sample :
    let salt : Salt := ⟨[1], by decide⟩
    let gate := Gate.sample.checkingAt salt ⟨some 1, .ofMillis 1000⟩ ⟨5001⟩
    let right : Credentials := ⟨⟨"ann"⟩, "secret"⟩
    let attempt (c : Credentials) (s : GateState) := gate.login ⟨⟨5000⟩, ⟨5000⟩⟩ 7 c s
    ∃ s s' : GateState, ∃ u : User, Reached s.store ∧ Reached s'.store ∧
      (∃ a, Answered Gate.sample salt ⟨⟨5000⟩, ⟨5000⟩⟩ 7 right s u a (attempt right s) ∧
        a = ⟨⟨5001⟩, true⟩) ∧
      TurnedAway Code.unauthenticated s (attempt ⟨⟨""⟩, "secret"⟩ s) ∧
      TurnedAway Code.tooManyAttempts s' (attempt right s') := by
  intro salt gate right attempt
  let policy : LoginPolicy := ⟨some 1, .ofMillis 1000⟩
  let digest := salt.hashPassword "secret"
  let changes := [Change.createRealm ⟨"realm"⟩ ⟨0⟩ "acme" none,
    Change.createUser ⟨"ann"⟩ ⟨1⟩ ⟨"realm"⟩ ⟨"ann"⟩ "Ann" digest]
  let failure := Change.recordAttempt ⟨"ann"⟩ ⟨⟨4999⟩, false⟩
  let ann := User.new (.new ⟨"ann"⟩ ⟨1⟩ "Ann" ⟨"realm"⟩) ⟨"ann"⟩ digest
  let s : GateState := ⟨.after changes, .empty none⟩
  let s' : GateState := ⟨.after (changes ++ [failure]), .empty none⟩
  have reached : Reached s.store := reached_after _
  have reached' : Reached s'.store := reached_after _
  have stored : s.store.parties.get? ⟨"ann"⟩ = some (.user ann) := rfl
  have stored' : s'.store.parties.get? ⟨"ann"⟩ =
      some (.user { ann with attempts := [⟨⟨4999⟩, false⟩] }) := rfl
  obtain ⟨-, known, -⟩ := login_writes Gate.sample salt policy ⟨⟨5000⟩, ⟨5000⟩⟩ ⟨5001⟩ 7 right
    reached
  obtain ⟨-, known', -⟩ := login_writes Gate.sample salt policy ⟨⟨5000⟩, ⟨5000⟩⟩ ⟨5001⟩ 7 right
    reached'
  obtain ⟨away, -, -⟩ := login_writes Gate.sample salt policy ⟨⟨5000⟩, ⟨5000⟩⟩ ⟨5001⟩ 7
    ⟨⟨""⟩, "secret"⟩ reached
  obtain ⟨a, timed, answered⟩ := (known _ _ stored rfl (by decide)).2 rfl
  refine ⟨s, s', ann, reached, reached', ⟨a, answered, ?_⟩, away (Or.inl rfl), ?_⟩
  · obtain ⟨time, succeeded⟩ := a
    obtain rfl : time = ⟨5001⟩ := timed
    obtain rfl : succeeded = true := answered.succeeded.2 rfl
    rfl
  · exact (known' _ _ stored' rfl (by decide)).1 (by decide)

end AccessControl
