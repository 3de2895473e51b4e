/-
  AccessControl/Proofs/Gate/Guesses.lean
  ======================================
  **What failed logins tell about accounts.**

  Somebody guesses at the password of a login and is wrong each time.  As long as no limit is
  set, the answers do not tell whether there is a user with the login: they are the same with
  the user and without, to the last word.  A limit can be felt, and has to be: once as many
  failures as the limit count against the user, it is told so, while nobody is ever blocked
  who does not exist.  This is all that the answers tell.  At every other guess they are the
  same, whatever came before.

  ## Main definitions

  * `Guess`, `Gate.answers`: guesses at one login, and what the gate says to them;
  * `User.guessed`: what is left of a guess on the record of the user.

  ## Main statements

  * `Gate.guess_known`, `Gate.guess_unknown`: one guess, with the user and without;
  * `blocked_guesses_only_tell`: what the answers to any guesses tell;
  * `limit_tells_accounts`: under a limit they do tell something.
-/
import AccessControl.Proofs.Gate.Guard
import AccessControl.Proofs.Gate.Login

namespace AccessControl

open Digest

/-! ## 1. Guesses -/

/-- A guess at a password, with what both readings of the clock give, and the number that a
    session would get. -/
structure Guess where
  password : String
  now : Moment
  recorded : Timestamp
  nonce : UInt64

def Gate.guess (g : Gate) (policy : LoginPolicy) (login : UserId) (a : Guess) (s : GateState) :
    Except Failure SessionToken × GateState :=
  (g.recordingAt policy a.recorded).login a.now a.nonce ⟨login, a.password⟩ s

/-- What the gate says to guesses at one login, one after another. -/
def Gate.answers (g : Gate) (policy : LoginPolicy) (login : UserId) :
    List Guess → GateState → List (Except Failure SessionToken)
  | [], _ => []
  | a :: guesses, s =>
    (g.guess policy login a s).1 :: g.answers policy login guesses (g.guess policy login a s).2

/-- A wrong guess goes on the record of the user, unless the user is blocked. -/
def User.guessed (policy : LoginPolicy) (u : User) (a : Guess) : User :=
  if (policy.blocking? a.now.date u).isSome then u else u.tried ⟨a.recorded, false⟩

/-- A policy blocks a user exactly if it has a limit, and as many failures count. -/
theorem LoginPolicy.blocking?_eq (policy : LoginPolicy) (now : Timestamp) (u : User) :
    policy.blocking? now u =
      if policy.maxFailures.any (fun limit => limit.toNat ≤ u.recentFailures (policy.since now))
      then some (u.recentFailures (policy.since now)) else none := by
  unfold blocking?
  cases policy.maxFailures <;> simp

section OneGuess

variable {g : Gate} {policy : LoginPolicy} {login : UserId} {a : Guess} {s : GateState}

theorem Gate.guess_nameless (empty : login.value = "") :
    g.guess policy login a s = (.error login.refusal, s) := by
  simp [guess, Gate.login, Credentials.validate, UserId.refusal, empty]

theorem Gate.guess_entry (g : Gate) (policy : LoginPolicy) (login : UserId) (a : Guess)
    (sound : s.store.Sound) :
    (g.recordingAt policy a.recorded).Entry policy a.now a.recorded a.nonce ⟨login, a.password⟩ s
      (g.guess policy login a s) :=
  g.entry_recordingAt policy a.now a.recorded a.nonce ⟨login, a.password⟩ sound

/-- A guess at a login that nobody has is turned down, and leaves no trace. -/
theorem Gate.guess_unknown (sound : s.store.Sound)
    (nobody : ∀ i u, s.store.parties.get? i = some (.user u) → u.userId ≠ login) :
    g.guess policy login a s = (.error login.refusal, s) := by
  have entry := g.guess_entry policy login a sound
  generalize g.guess policy login a s = outcome at entry ⊢
  cases entry with
  | nameless => rfl
  | unknown => rfl
  | @blocked u _ _ stored own => exact absurd own (nobody _ u stored)
  | @wrong u _ stored own => exact absurd own (nobody _ u stored)
  | @entered u _ stored own => exact absurd own (nobody _ u stored)

/-- A wrong guess at the login of a user is turned down in the same words, unless the user is
    blocked.  Then it is told so. -/
theorem Gate.guess_known (g : Gate) (policy : LoginPolicy) (sound : s.store.Sound)
    (named : login.value ≠ "") {i : ObjectId} {u : User}
    (stored : s.store.parties.get? i = some (.user u)) (own : u.userId = login)
    (wrong : g.salt.verifyPassword a.password u.passwordHash = false) :
    let failures := u.recentFailures (policy.since a.now.date)
    (g.guess policy login a s).1 =
        .error (if policy.maxFailures.any (fun limit => limit.toNat ≤ failures)
          then Failure.tooManyAttempts failures else login.refusal) ∧
      (g.guess policy login a s).2.store.parties.get? i = some (.user (u.guessed policy a)) := by
  intro failures
  have blocking := policy.blocking?_eq a.now.date u
  have key : u.info.id = i := sound.parties i (.user u) stored
  have entry := g.guess_entry policy login a sound
  generalize g.guess policy login a s = outcome at entry ⊢
  cases entry with
  | nameless empty => exact absurd empty named
  | unknown _ nobody => exact absurd own (nobody i u stored)
  | @blocked u' n _ stored' own' full =>
    -- the user who is told so is the one in question, since nobody else has the login
    obtain ⟨rfl, rfl⟩ := sound.user_unique stored stored' (own'.trans own.symm)
    rw [full] at blocking
    split at blocking
    · next reached =>
      cases blocking
      rw [if_pos reached]
      exact ⟨rfl, by rw [User.guessed, full]; exact stored⟩
    · cases blocking
  | @wrong u' _ stored' own' free =>
    obtain ⟨rfl, rfl⟩ := sound.user_unique stored stored' (own'.trans own.symm)
    rw [free] at blocking
    split at blocking
    · cases blocking
    · next below =>
      rw [if_neg below]
      refine ⟨rfl, ?_⟩
      rw [User.guessed, free]
      exact Shelf.get?_put_self _ _ _
  | @entered u' _ stored' own' _ same =>
    obtain ⟨rfl, rfl⟩ := sound.user_unique stored stored' (own'.trans own.symm)
    exact absurd (wrong.symm.trans same) Bool.false_ne_true

theorem Gate.guess_run (g : Gate) (policy : LoginPolicy) (login : UserId) (a : Guess)
    {log : List Deed} {drawn : List ObjectId} (begun : Run .start log ⟨s.store, drawn⟩) :
    ∃ log', Run .start log' ⟨(g.guess policy login a s).2.store, drawn⟩ := by
  obtain ⟨more, run⟩ := (g.guess_entry policy login a begun.sound).run drawn
  exact ⟨_, begun.trans run⟩

theorem User.guessed_userId (u : User) : (u.guessed policy a).userId = u.userId := by
  unfold guessed
  split <;> rfl

theorem User.guessed_passwordHash (u : User) :
    (u.guessed policy a).passwordHash = u.passwordHash := by
  unfold guessed
  split <;> rfl

end OneGuess

/-! ## 2. Rows of guesses -/

section Guesses

variable {g : Gate} {policy : LoginPolicy} {login : UserId} {s : GateState}

theorem Gate.length_answers (guesses : List Guess) :
    (g.answers policy login guesses s).length = guesses.length := by
  induction guesses generalizing s with
  | nil => rfl
  | cons a guesses ih => exact congrArg (· + 1) ih

theorem Gate.answers_of_no_trace
    (down : ∀ a, g.guess policy login a s = (.error login.refusal, s)) (guesses : List Guess) :
    g.answers policy login guesses s = guesses.map fun _ => .error login.refusal := by
  induction guesses with
  | nil => rfl
  | cons a guesses ih => rw [answers, down, ih, List.map_cons]

theorem Gate.answers_known (g : Gate) (policy : LoginPolicy) {log : List Deed}
    {drawn : List ObjectId} (begun : Run .start log ⟨s.store, drawn⟩)
    (named : login.value ≠ "") {i : ObjectId} {u : User}
    (stored : s.store.parties.get? i = some (.user u)) (own : u.userId = login)
    {before after : List Guess} {a : Guess}
    (wrong : ∀ b ∈ before ++ a :: after,
      g.salt.verifyPassword b.password u.passwordHash = false) :
    let failures := (before.foldl (User.guessed policy) u).recentFailures (policy.since a.now.date)
    (g.answers policy login (before ++ a :: after) s)[before.length]? =
      some (.error (if policy.maxFailures.any (fun limit => limit.toNat ≤ failures)
        then Failure.tooManyAttempts failures else login.refusal)) := by
  induction before generalizing s u log with
  | nil =>
    obtain ⟨answer, -⟩ := g.guess_known policy begun.sound named stored own
      (wrong a (by simp))
    exact congrArg some answer
  | cons b before ih =>
    obtain ⟨-, left⟩ := g.guess_known policy begun.sound named stored own
      (wrong b (by simp))
    obtain ⟨log', run⟩ := g.guess_run policy login b begun
    refine ih run left (u.guessed_userId.trans own) fun c hc => ?_
    rw [User.guessed_passwordHash]
    exact wrong c (List.mem_cons_of_mem _ hc)

end Guesses

/-! ## 3. What the answers tell -/

/-- Wrong guesses at one login are tried on two stores: in the first a user has the login, in
    the second nobody has it.  On the second all are turned down in the same words.  On the
    first each is turned down in these words too, unless there is a limit and as many failures
    as the limit count against the user when the guess is made.  Then the gate says how many
    do.  They count if they lie after the last success and not before the start of the window,
    and are those that were on record before the first guess, and one for every guess since
    that was not blocked.  Without a limit, the answers are the same. -/
theorem blocked_guesses_only_tell (g : Gate) (policy : LoginPolicy) (login : UserId)
    {s s' : GateState} (reached : Reached s.store) (reached' : Reached s'.store)
    {i : ObjectId} {u : User} (stored : s.store.parties.get? i = some (.user u))
    (own : u.userId = login)
    (nobody : ∀ j v, s'.store.parties.get? j = some (.user v) → v.userId ≠ login)
    (guesses : List Guess)
    (wrong : ∀ a ∈ guesses, g.salt.verifyPassword a.password u.passwordHash = false) :
    let known := g.answers policy login guesses s
    let unknown := g.answers policy login guesses s'
    known.length = guesses.length ∧
    unknown = guesses.map (fun _ => .error login.refusal) ∧
    (∀ before a after, guesses = before ++ a :: after →
      let failures :=
        (before.foldl (User.guessed policy) u).recentFailures (policy.since a.now.date)
      known[before.length]? = some (.error
        (if login.value ≠ "" ∧ policy.maxFailures.any (fun limit => limit.toNat ≤ failures)
          then Failure.tooManyAttempts failures else login.refusal))) ∧
    (policy.maxFailures = none → known = unknown) := by
  intro known unknown
  obtain ⟨log, drawn, begun⟩ := reached
  have turnedDown : unknown = guesses.map fun _ => .error login.refusal :=
    Gate.answers_of_no_trace (fun a => Gate.guess_unknown reached'.sound nobody) guesses
  have each : ∀ before a after, guesses = before ++ a :: after →
      let failures :=
        (before.foldl (User.guessed policy) u).recentFailures (policy.since a.now.date)
      known[before.length]? = some (.error
        (if login.value ≠ "" ∧ policy.maxFailures.any (fun limit => limit.toNat ≤ failures)
          then Failure.tooManyAttempts failures else login.refusal)) := by
    rintro before a after rfl failures
    by_cases named : login.value = ""
    · rw [if_neg fun h => h.1 named]
      show (g.answers policy login (before ++ a :: after) s)[before.length]? = _
      rw [Gate.answers_of_no_trace fun b => Gate.guess_nameless named]
      simp
    · simp only [ne_eq, named, not_false_eq_true, true_and]
      exact g.answers_known policy begun named stored own wrong
  refine ⟨Gate.length_answers guesses, turnedDown, each, fun unlimited => ?_⟩
  -- the two rows of answers agree place by place
  refine List.ext_getElem? fun k => ?_
  rw [turnedDown, List.getElem?_map]
  rcases Nat.lt_or_ge k guesses.length with inside | outside
  · have split : guesses = guesses.take k ++ guesses[k] :: guesses.drop (k + 1) := by
      rw [← List.drop_eq_getElem_cons inside, List.take_append_drop]
    have answer := each _ _ _ split
    rw [List.length_take_of_le (Nat.le_of_lt inside), unlimited] at answer
    rw [answer, List.getElem?_eq_getElem inside]
    simp
  · have ends : known.length ≤ k :=
      Nat.le_trans (Nat.le_of_eq (Gate.length_answers guesses)) outside
    rw [List.getElem?_eq_none ends, List.getElem?_eq_none outside, Option.map_none]

/-! ## 4. A limit can be felt -/

theorem Digest.Salt.verifyPassword_empty (salt : Salt) (password : String) :
    salt.verifyPassword password "" = false := by
  rw [Bool.eq_false_iff]
  intro right
  have length := salt.length_digestText password
  rw [← Salt.hashPassword, ← Salt.verifyPassword_iff.1 right] at length
  cases length

def Guess.sample (millis : Int64) : Guess := ⟨"guess", ⟨⟨millis⟩, ⟨0⟩⟩, ⟨millis⟩, 0⟩

def LoginPolicy.sample : LoginPolicy := ⟨some 1, .ofMillis 1000⟩

def User.sample : User := User.new (.new ⟨"ann"⟩ ⟨2⟩ "Ann" ⟨"realm"⟩) ⟨"ann"⟩ ""

theorem Store.nobody_sample (j : ObjectId) (v : User)
    (stored : (Store.after (Change.sample.take 2)).parties.get? j = some (.user v)) :
    v.userId ≠ ⟨"ann"⟩ := by
  have none : (Store.after (Change.sample.take 2)).parties.entries = [] := by decide
  rw [Shelf.get?_eq_some, none] at stored
  cases stored

theorem User.failures_sample :
    ([Guess.sample 5000].foldl (User.guessed .sample) .sample).recentFailures
      (LoginPolicy.sample.since (Guess.sample 5500).now.date) = 1 := by decide

/-- The third guess comes after the window of the first. -/
theorem blocked_guesses_only_tell_sample :
    let guesses := [Guess.sample 5000, Guess.sample 5500, Guess.sample 6001]
    let known := Gate.sample.answers .sample ⟨"ann"⟩ guesses
      ⟨.after (Change.sample.take 3), .empty none⟩
    let unknown := Gate.sample.answers .sample ⟨"ann"⟩ guesses
      ⟨.after (Change.sample.take 2), .empty none⟩
    known[1]? = some (.error (Failure.tooManyAttempts 1)) ∧
      known[2]? = some (.error (UserId.refusal ⟨"ann"⟩)) ∧
      unknown[1]? = some (.error (UserId.refusal ⟨"ann"⟩)) := by
  intro guesses known unknown
  let s : GateState := ⟨.after (Change.sample.take 3), .empty none⟩
  let s' : GateState := ⟨.after (Change.sample.take 2), .empty none⟩
  have reached : Reached s.store := reached_after _
  have reached' : Reached s'.store := reached_after _
  have stored : s.store.parties.get? ⟨"ann"⟩ = some (.user .sample) := rfl
  obtain ⟨-, turnedDown, each, -⟩ := blocked_guesses_only_tell Gate.sample .sample ⟨"ann"⟩
    reached reached' stored rfl Store.nobody_sample guesses
    (fun a _ => Gate.sample.salt.verifyPassword_empty a.password)
  refine ⟨?_, ?_, ?_⟩
  · refine (each [Guess.sample 5000] (Guess.sample 5500) [Guess.sample 6001] rfl).trans ?_
    rw [User.failures_sample, if_pos (by decide)]
  · refine (each [Guess.sample 5000, Guess.sample 5500] (Guess.sample 6001) [] rfl).trans ?_
    rw [if_neg (by decide)]
  · exact congrArg (·[1]?) turnedDown

/-- Two stores differ by one user, and two wrong guesses at its login, under a limit of one
    failure, are answered differently. -/
theorem limit_tells_accounts :
    let guesses := [Guess.sample 5000, Guess.sample 5500]
    let without := Store.after (Change.sample.take 2)
    let known := Store.after (Change.sample.take 3)
    (Change.createUser ⟨"ann"⟩ ⟨2⟩ ⟨"realm"⟩ ⟨"ann"⟩ "Ann" "").perform without = .ok known ∧
      (∀ j v, without.parties.get? j = some (.user v) → v.userId ≠ ⟨"ann"⟩) ∧
      (∃ u, known.parties.get? ⟨"ann"⟩ = some (.user u) ∧ u.userId = ⟨"ann"⟩ ∧
        ∀ a ∈ guesses, Gate.sample.salt.verifyPassword a.password u.passwordHash = false) ∧
      Gate.sample.answers .sample ⟨"ann"⟩ guesses ⟨known, .empty none⟩ ≠
        Gate.sample.answers .sample ⟨"ann"⟩ guesses ⟨without, .empty none⟩ := by
  intro guesses without known
  let s : GateState := ⟨known, .empty none⟩
  have stored : s.store.parties.get? ⟨"ann"⟩ = some (.user .sample) := rfl
  have wrong : ∀ a ∈ [Guess.sample 5000] ++ Guess.sample 5500 :: [],
      Gate.sample.salt.verifyPassword a.password User.sample.passwordHash = false :=
    fun a _ => Gate.sample.salt.verifyPassword_empty a.password
  refine ⟨rfl, Store.nobody_sample, ⟨.sample, stored, rfl, wrong⟩, fun same => ?_⟩
  have reached : Reached s.store := reached_after _
  obtain ⟨log, drawn, begun⟩ := reached
  have blocked := Gate.sample.answers_known .sample begun (by decide) stored rfl wrong
  simp only [User.failures_sample] at blocked
  have turnedDown : Gate.sample.answers .sample ⟨"ann"⟩ guesses ⟨without, .empty none⟩ = _ :=
    Gate.answers_of_no_trace
      (fun a => Gate.guess_unknown (reached_after _).sound Store.nobody_sample) guesses
  have refused := blocked.symm.trans ((congrArg (·[1]?) same).trans (congrArg (·[1]?) turnedDown))
  have codes := congrArg Failure.code (Except.error.inj (Option.some.inj refused))
  revert codes
  decide

end AccessControl
