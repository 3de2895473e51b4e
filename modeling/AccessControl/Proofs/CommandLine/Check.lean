/-
  AccessControl/Proofs/CommandLine/Check.lean
  ===========================================
  **A check, from the settings to the reply.**

  A check goes through the whole program: the settings make a gate, a seed fills the store
  behind it, a user logs in, is known again by the cookie and by the token, and the guard
  asks the authorizer.  Each part has its own theory, and here they meet.  What could go
  wrong between them does not.  Settings that pass the checks always make a gate.  A user
  that was just made has no failures on record and is not blocked.  The cookie that the gate
  sets is the one that it reads, whatever it is called, and the session is there if the idle
  limit has not passed.  The attempt that goes on record does not turn the decision.  So the
  answer depends on the seed alone: on the login and the password, and then on the grants.

  ## Main definitions

  * `Settings.Makes`: what acceptable settings make;
  * `Seed.TurnsDown`: the credentials are not those of a user of the seed;
  * `Reports`: a reply says whether the action is allowed;
  * `Settles`: how the reply follows from the switch and the decision.

  ## Main statements

  * `Settings.makes_of_valid`: acceptable settings make a gate;
  * `Gate.Entry.first`: the first login with a seed;
  * `Gate.knows_own_cookie`: the gate knows whom it let in;
  * `check_answers`: what a check answers.
-/
import AccessControl.CommandLine.Commands
import AccessControl.Proofs.Gate.Guesses
import AccessControl.Proofs.Gate.Sessions
import AccessControl.Proofs.Seed.Accounts
import AccessControl.Proofs.Settings.Wired

namespace AccessControl

open Digest CommandLine

/-! ## 1. What acceptable settings make -/

/-- With a reader of durations the settings make this salt, this cache and this gate, with this
    policy for logins. -/
structure Settings.Makes (s : Settings) (read : DurationReader) (salt : Salt)
    (sessions : SessionCache) (g : Gate) (policy : LoginPolicy) : Prop where
  credentials : s.credentials read = .ok (salt, sessions)
  gate : s.gate salt Backend.direct read = .ok g
  salted : g.salt = salt
  checks : g.authenticator = Backend.direct.passwords salt policy
  direct : g.lookups = Backend.direct.lookups
  plain : g.cookie.Plain
  enabled : g.enabled = s.authorize
  lenient : policy.maxFailures ≠ some 0

namespace Settings

variable {s : Settings} {read : DurationReader}

theorem cookieName_of_sessionPolicy {p : SessionPolicy} (h : s.sessionPolicy read = .ok p) :
    p.cookieName = s.session.cookieName := by
  unfold sessionPolicy at h
  split at h
  · cases h
  · cases h
    rfl

/-- Acceptable settings make a gate. -/
theorem makes_of_valid (valid : s.validate read = .ok ()) :
    ∃ salt sessions g policy, s.Makes read salt sessions g policy := by
  obtain ⟨salted, named, _, lenient, ⟨session, hs⟩, ⟨login, hl⟩⟩ := validate_eq_ok.1 valid
  obtain ⟨salt, made, -⟩ := exists_salt (String.isEmpty_eq_false_iff.1 salted)
  have plain : (SessionCookie.ofPolicy session).Plain := by
    apply SessionCookie.plain_of_isCookieName
    rw [SessionCookie.ofPolicy, cookieName_of_sessionPolicy hs]
    exact named
  refine ⟨salt, _, _, login, credentials_eq_ok valid hs made, gate_eq_ok hs hl salt Backend.direct,
    rfl, rfl, rfl, plain, rfl, ?_⟩
  rw [maxFailures_of_loginPolicy hl]
  exact lenient

end Settings

/-! ## 2. The first login -/

/-- The credentials are not those of a user of the seed. -/
def Seed.TurnsDown (seed : Seed) (salt : Salt) (login password : String) : Prop :=
  login = "" ∨ (∀ u ∈ seed.users, u.login ≠ login) ∨
    ∃ u ∈ seed.users, u.login = login ∧ salt.hashPassword password ≠ salt.hashPassword u.password

theorem LoginPolicy.blocking?_untried {policy : LoginPolicy} (lenient : policy.maxFailures ≠ some 0)
    (now : Timestamp) {u : User} (untried : u.attempts = []) : policy.blocking? now u = none := by
  have failures : u.recentFailures (policy.since now) = 0 := by
    simp [User.recentFailures, User.openFailures, untried]
  rw [policy.blocking?_eq, failures, if_neg]
  rcases limited : policy.maxFailures with _ | limit
  · simp
  · intro full
    have zero : limit.toNat = 0 := by simpa using full
    rw [limited] at lenient
    exact lenient (congrArg some (UInt32.toNat_inj.1 zero))

section FirstLogin

variable {g : Gate} {policy : LoginPolicy} {now : Moment} {recorded : Timestamp} {nonce : UInt64}
  {sessions : SessionCache} {e : Supply} {seed : Seed} {log : List Deed} {w : Sowing}
  {login password : String} {outcome : Except Failure SessionToken × GateState}

/-- Who is turned down by the seed is turned down, and everybody else gets in.  No first login
    is blocked. -/
theorem Gate.Entry.first (housed : Housed e seed.steps log w) (salted : g.salt = e.salt)
    (lenient : policy.maxFailures ≠ some 0)
    (h : g.Entry policy now recorded nonce ⟨⟨login⟩, password⟩ ⟨w.store, sessions⟩ outcome) :
    (seed.TurnsDown e.salt login password ∧
        ∃ s, outcome = (.error (UserId.refusal ⟨login⟩), s)) ∨
      ¬seed.TurnsDown e.salt login password ∧
        ∃ u, w.store.parties.get? u.info.id = some (.user u) ∧ u.userId = ⟨login⟩ ∧
          outcome = (.ok ⟨.mint g.salt nonce, ⟨login⟩⟩, ⟨w.store.tried u ⟨recorded, true⟩,
            sessions.insert now.elapsed (.mint g.salt nonce) ⟨⟨login⟩, password⟩⟩) := by
  cases h with
  | nameless empty => exact Or.inl ⟨Or.inl empty, _, rfl⟩
  | unknown _ nobody =>
    refine Or.inl ⟨Or.inr (Or.inl ?_), _, rfl⟩
    intro s hs same
    obtain ⟨home, hstep⟩ := Seed.mem_steps_user hs
    obtain ⟨u, stored, account⟩ := housed.account hstep
    exact nobody _ u stored (account.login.trans (congrArg UserId.mk same))
  | @blocked u _ _ stored _ full =>
    -- nothing is on record yet
    rw [policy.blocking?_untried lenient _ (housed.untried stored)] at full
    cases full
  | @wrong u _ stored own _ differs =>
    obtain ⟨home, s, hstep, account⟩ := housed.declared stored
    have named : s.login = login := congrArg UserId.value (account.login.symm.trans own)
    refine Or.inl ⟨Or.inr (Or.inr ⟨s, Seed.mem_users hstep, named, ?_⟩), _, rfl⟩
    intro same
    rw [salted, Salt.verifyPassword_iff.2 (account.digest.trans same.symm)] at differs
    cases differs
  | @entered u named stored own _ same =>
    refine Or.inr ⟨?_, u, stored, own, rfl⟩
    rintro (empty | nobody | ⟨s, hs, own', differs⟩)
    · exact named empty
    · obtain ⟨home, s, hstep, account⟩ := housed.declared stored
      have own' : s.login = login := congrArg UserId.value (account.login.symm.trans own)
      exact nobody s (Seed.mem_users hstep) own'
    · -- the login belongs to one user only
      obtain ⟨home, hstep⟩ := Seed.mem_steps_user hs
      obtain ⟨u', stored', account⟩ := housed.account hstep
      have login' : u'.userId = u.userId := by rw [account.login, own', own]
      obtain ⟨-, rfl⟩ := housed.run.sound.user_unique stored stored' login'
      rw [salted, Salt.verifyPassword_iff] at same
      exact differs (same.symm.trans account.digest)

end FirstLogin

/-! ## 3. The session -/

namespace Gate

variable {g : Gate} {nonce : UInt64} {login : UserId}

theorem cookiePair_setCookie (plain : g.cookie.Plain) :
    cookiePair (g.setCookie ⟨.mint g.salt nonce, login⟩) =
      String.ofList
        (g.cookie.name.toList ++ '=' :: (SessionId.mint g.salt nonce).value.toList) := by
  rw [cookiePair, setCookie, List.headD_eq_head?_getD, SessionCookie.first_piece plain]
  rfl

/-- The cookie that a client sends back is known as the token that it was set for. -/
theorem knows_own_cookie (plain : g.cookie.Plain) (nonce : UInt64) (c : Credentials)
    (store : Store) {sessions : SessionCache} {now : Duration} {later : Moment}
    (close : Close sessions.idleLimit now later.elapsed) :
    ∃ cache, g.authenticateCookie later
        (some (cookiePair (g.setCookie ⟨.mint g.salt nonce, c.userId⟩)))
        ⟨store, sessions.insert now (.mint g.salt nonce) c⟩ =
      (some ⟨.mint g.salt nonce, c.userId⟩, ⟨store, cache⟩) := by
  have carried : g.cookie.extract
      (some (cookiePair (g.setCookie ⟨.mint g.salt nonce, c.userId⟩))) =
        some (.mint g.salt nonce) := by
    rw [cookiePair_setCookie plain]
    exact SessionCookie.extract_own plain
  rcases g.authenticateCookie_cases later _ ⟨store, sessions.insert now (.mint g.salt nonce) c⟩ with
    ⟨none, _⟩ | ⟨id, some, same⟩
  · rw [carried] at none
    cases none
  · rw [carried] at some
    cases some
    have kept : (sessions.insert now (.mint g.salt nonce) c).get? (.mint g.salt nonce) =
        some ⟨c, now⟩ := by
      rw [SessionCache.get?_insert, if_pos rfl]
    have found := SessionCache.lookup_eq_some.2 ⟨now, kept, close⟩
    refine ⟨((sessions.insert now (.mint g.salt nonce) c).lookup later.elapsed
      (.mint g.salt nonce)).2, same.trans ?_⟩
    simp only [found, Option.map_some]

section Passing

variable {now later : Moment} {r : CheckRequest} {target : ObjectId} {s₀ s s' : GateState}
  {t t' : SessionToken}

theorem passGate_refused {f : Failure}
    (refused : g.login now nonce ⟨⟨r.user⟩, r.password⟩ s₀ = (.error f, s)) :
    passGate g now later nonce r target s₀ = .error (failureTrouble f) := by
  unfold passGate
  rw [refused]
  rfl

theorem passGate_admitted
    (admitted : g.login now nonce ⟨⟨r.user⟩, r.password⟩ s₀ = (.ok t, s))
    (known : g.authenticateCookie later (some (cookiePair (g.setCookie t))) s = (some t', s'))
    (verified : g.authenticateSession (some t') s'.store = .ok ()) :
    passGate g now later nonce r target s₀ =
      .ok (g.guard t' (Mask.single r.action).bits target (r.handler.getD r.action.lowerName)
        s'.store) := by
  have entered : (Except.ok t : Except Failure SessionToken).mapError failureTrouble = .ok t := rfl
  have checked : (Except.ok () : Except Failure Unit).mapError failureTrouble = .ok () := rfl
  simp only [passGate, admitted, entered, bind, Except.bind, known, verified, checked]
  rfl

end Passing

end Gate

/-! ## 4. The decision -/

section Decision

variable {s : Store} {u : User} {login : UserId} {id : ObjectId}

/-- The account of another user than the one with the login. -/
def Store.AccountOfOther (s : Store) (login : UserId) (id : ObjectId) : Prop :=
  ∃ u, s.parties.get? id = some (.user u) ∧ u.userId ≠ login

theorem Store.Sound.userWith?_of_stored (sound : s.Sound) {i : ObjectId}
    (stored : s.parties.get? i = some (.user u)) (own : u.userId = login) :
    s.userWith? login = some u := by
  have key : u.info.id = i := sound.parties i (.user u) stored
  exact (user_eq_ok_iff_userWith? sound).1 (sound.user_eq_ok.2 ⟨key ▸ stored, own⟩)

/-- That an attempt of the user is on record does not turn a decision. -/
theorem Store.Sound.decision_tried (sound : s.Sound) {a : LoginAttempt}
    (sound' : (s.tried u a).Sound) (stored : s.parties.get? u.info.id = some (.user u))
    (own : u.userId = login) (p : Permission) (id : ObjectId) :
    (s.tried u a).lookups.decision login (Mask.single p) id =
      s.lookups.decision login (Mask.single p) id := by
  have before := sound.userWith?_of_stored stored own
  have stored' : (s.tried u a).parties.get? u.info.id = some (.user (u.tried a)) :=
    Shelf.get?_put_self _ _ _
  have after := sound'.userWith?_of_stored stored' own
  rw [decision_single, decision_single, decisionOn_of_user sound before,
    decisionOn_of_user sound' after]
  simp only [Store.verdict, before, after]
  rfl

theorem Store.Sound.decision_cases (sound : s.Sound)
    (stored : s.parties.get? u.info.id = some (.user u)) (own : u.userId = login) (p : Permission)
    (there : (∃ v, s.parties.get? id = some (.user v)) ∨ ∃ r, s.resources.get? id = some r) :
    let decided := (s.lookups.decision login (Mask.single p) id).map Decision.allow
    (¬s.AccountOfOther login id ∧ ∃ allow, decided = .ok allow) ∨
      s.AccountOfOther login id ∧ decided = .error (Failure.noSuch "resource" id.value) := by
  intro decided
  have known := sound.userWith?_of_stored stored own
  have decided_eq : decided = (s.verdict login p id).map Decision.allow := by
    rw [← decisionOn_of_user sound known, ← decision_single]
  rcases there with ⟨v, hv⟩ | ⟨r, hr⟩
  · by_cases self : v.userId = login
    · obtain ⟨rfl, rfl⟩ := sound.user_unique stored hv (self.trans own.symm)
      refine Or.inl ⟨?_, true, ?_⟩
      · rintro ⟨v', hv', other⟩
        rw [hv] at hv'
        cases hv'
        exact other self
      · rw [decided_eq, Store.verdict, known]
        simp [Except.map]
    · -- no user is a resource
      have absent : s.resources.get? id = none := by
        rw [Shelf.get?_eq_none]
        intro listed
        exact sound.apart id listed (Shelf.mem_keys_of_get? hv)
      have other : u.info.id ≠ id := by
        rintro rfl
        rw [stored] at hv
        cases hv
        exact self own
      refine Or.inr ⟨⟨v, hv, self⟩, ?_⟩
      rw [decided_eq, Store.verdict, known]
      simp [other, absent, Except.map]
  · have noUser : ∀ v, s.parties.get? id ≠ some (.user v) := by
      intro v hv
      exact sound.apart id (Shelf.mem_keys_of_get? hr) (Shelf.mem_keys_of_get? hv)
    have other : u.info.id ≠ id := by
      rintro rfl
      exact noUser u stored
    obtain ⟨allow, answer, _⟩ := allow_verdict (p := p) known other hr
    refine Or.inl ⟨?_, allow, decided_eq.trans answer⟩
    rintro ⟨v, hv, _⟩
    exact noUser v hv

end Decision

/-! ## 5. Replies -/

/-- The answer is a reply that says whether the action is allowed. -/
def Reports (answer : Except Trouble Reply) (allowed : Bool) : Prop :=
  ∃ reply, answer = .ok reply ∧ reply.report.data.lookup "allowed" = some (.flag allowed)

/-- How the answer follows from the switch of the guard and from the decision. -/
inductive Settles (on : Bool) (decided : Except Failure Bool) : Except Trouble Reply → Prop
  | unguarded {answer : Except Trouble Reply} (off : on = false) (told : Reports answer true) :
      Settles on decided answer
  | decision {answer : Except Trouble Reply} {allowed : Bool} (guarded : on = true)
      (is : decided = .ok allowed) (told : Reports answer allowed) : Settles on decided answer
  | undecided {f : Failure} (guarded : on = true) (is : decided = .error f) :
      Settles on decided (.error (failureTrouble f))

section Replies

variable {on : Bool} {decided : Except Failure Bool} {answer : Except Trouble Reply}

theorem Reports.unique {a b : Bool} (ha : Reports answer a) (hb : Reports answer b) : a = b := by
  obtain ⟨reply, rfl, told⟩ := ha
  obtain ⟨_, same, told'⟩ := hb
  cases same
  rw [told] at told'
  cases told'
  rfl

theorem Reports.ne_error {a : Bool} (h : Reports answer a) (trouble : Trouble) :
    answer ≠ .error trouble := by
  obtain ⟨reply, rfl, _⟩ := h
  exact nofun

theorem Settles.allowed_iff (h : Settles on decided answer) :
    Reports answer true ↔ on = false ∨ decided = .ok true := by
  cases h with
  | unguarded off told => exact iff_of_true told (Or.inl off)
  | decision guarded is told =>
    subst guarded is
    constructor
    · intro yes
      rw [told.unique yes]
      exact Or.inr rfl
    · intro yes
      cases yes.resolve_left nofun
      exact told
  | undecided guarded is =>
    subst guarded is
    simp [Reports]

theorem Settles.denied_iff (h : Settles on decided answer) :
    Reports answer false ↔ on = true ∧ decided = .ok false := by
  cases h with
  | unguarded off told =>
    subst off
    constructor
    · intro no
      cases told.unique no
    · rintro ⟨guarded, _⟩
      cases guarded
  | decision guarded is told =>
    subst guarded is
    constructor
    · intro no
      exact ⟨rfl, congrArg Except.ok (told.unique no)⟩
    · rintro ⟨_, no⟩
      cases no
      exact told
  | undecided guarded is =>
    subst guarded is
    simp [Reports]

theorem Settles.error_iff (h : Settles on decided answer) (trouble : Trouble) :
    answer = .error trouble ↔
      on = true ∧ ∃ f, decided = .error f ∧ trouble = failureTrouble f := by
  cases h with
  | unguarded off told =>
    subst off
    simp [told.ne_error]
  | decision guarded is told =>
    subst guarded is
    simp [told.ne_error]
  | undecided guarded is =>
    subst guarded is
    simp [eq_comm]

variable {r : CheckRequest}

theorem reports_allowed : Reports (checkReply r (.ok ())) true := ⟨_, rfl, rfl⟩

theorem reports_denied {f : Failure} (forbidden : f.code = Code.forbidden) :
    Reports (checkReply r (.error f)) false :=
  ⟨_, if_pos forbidden, rfl⟩

theorem checkReply_undecided {f : Failure} (other : f.code ≠ Code.forbidden) :
    checkReply r (.error f) = .error (failureTrouble f) := if_neg other

theorem Gate.settles {g : Gate} {t : SessionToken} {p : Permission} {id : ObjectId}
    (action : String) {s : Store}
    (undecided : ∀ f, g.authorize t (Mask.single p).bits id s = .error f →
      f.code ≠ Code.forbidden) :
    Settles g.enabled (g.authorize t (Mask.single p).bits id s)
      (checkReply r (g.guard t (Mask.single p).bits id action s)) := by
  rcases on : g.enabled
  · rw [Gate.guard_disabled on]
    exact .unguarded rfl reports_allowed
  · have guard_eq : g.guard t (Mask.single p).bits id action s =
        (g.authorize t (Mask.single p).bits id s >>= fun allowed =>
          if allowed then .ok ()
          else (g.lookups s).resource id >>= fun o =>
            .error (Failure.forbiddenAction action o.name id.value)) := by
      simp only [Gate.guard, on, Bool.not_true, Bool.false_eq_true, if_false]
      rfl
    rw [guard_eq]
    rcases decided : g.authorize t (Mask.single p).bits id s with f | _ | _
    · show Settles true _ (checkReply r (.error f))
      rw [checkReply_undecided (undecided f decided)]
      exact .undecided rfl rfl
    · obtain ⟨o, found⟩ := Gate.resource_of_denied (Mask.count_single p) decided
      refine .decision rfl rfl ?_
      show Reports (checkReply r ((g.lookups s).resource id >>= _)) false
      rw [found]
      exact reports_denied rfl
    · exact .decision rfl rfl reports_allowed

end Replies

/-! ## 6. A whole check -/

theorem Settings.Makes.admitted {settings : Settings} {read : DurationReader} {salt : Salt}
    {sessions : SessionCache} {g : Gate} {policy : LoginPolicy}
    (made : settings.Makes read salt sessions g policy)
    {store : Store} {log : List Deed} {drawn : List ObjectId}
    (begun : Run .start log ⟨store, drawn⟩)
    {now later : Moment} (close : Close sessions.idleLimit now.elapsed later.elapsed)
    {nonce : UInt64} {r : CheckRequest} {target : ObjectId}
    (there : (∃ v, store.parties.get? target = some (.user v)) ∨
      ∃ o, store.resources.get? target = some o)
    {u : User} {a : LoginAttempt} (stored : store.parties.get? u.info.id = some (.user u))
    (own : u.userId = ⟨r.user⟩)
    (entered : g.login now nonce ⟨⟨r.user⟩, r.password⟩ ⟨store, sessions⟩ =
      (.ok ⟨.mint g.salt nonce, ⟨r.user⟩⟩, ⟨store.tried u a,
        sessions.insert now.elapsed (.mint g.salt nonce) ⟨⟨r.user⟩, r.password⟩⟩)) :
    let t : SessionToken := ⟨.mint g.salt nonce, ⟨r.user⟩⟩
    let decided :=
      (store.lookups.decision ⟨r.user⟩ (Mask.single r.action) target).map Decision.allow
    (∃ cache, g.authenticateCookie later (some (cookiePair (g.setCookie t)))
        ⟨store.tried u a, sessions.insert now.elapsed (.mint g.salt nonce) ⟨⟨r.user⟩, r.password⟩⟩ =
      (some t, ⟨store.tried u a, cache⟩)) ∧
    g.authenticateSession (some t) (store.tried u a) = .ok () ∧
    Settles settings.authorize decided
      (passGate g now later nonce r target ⟨store, sessions⟩ >>= checkReply r) := by
  intro t decided
  have sound := begun.sound
  have sound' : (store.tried u a).Sound :=
    (begun.more (Step.of_tried (w := ⟨store, drawn⟩) stored a)).sound
  have stored' : (store.tried u a).parties.get? u.info.id = some (.user (u.tried a)) :=
    Shelf.get?_put_self _ _ _
  have verified : g.authenticateSession (some t) (store.tried u a) = .ok () :=
    Gate.knows_own_token made.direct nonce sound'
      (sound'.connected.login_iff.2 ⟨u.tried a, stored', own⟩)
  obtain ⟨cache, known⟩ := g.knows_own_cookie made.plain nonce ⟨⟨r.user⟩, r.password⟩
    (store.tried u a) close
  -- the attempt that went on record has turned nothing
  have decided_eq : g.authorize t (Mask.single r.action).bits target (store.tried u a) =
      decided := by
    rw [Gate.authorize, Mask.ofBits_bits, made.direct]
    show ((store.tried u a).lookups.decision ⟨r.user⟩ _ target).map _ = decided
    rw [sound.decision_tried sound' stored own]
  have settles : Settles g.enabled decided (checkReply r
      (g.guard t (Mask.single r.action).bits target (r.handler.getD r.action.lowerName)
        (store.tried u a))) := by
    rw [← decided_eq]
    refine Gate.settles _ fun f failed => ?_
    rw [decided_eq] at failed
    rcases sound.decision_cases stored own r.action there with ⟨_, allow, answer⟩ | ⟨_, answer⟩
    · cases failed.symm.trans answer
    · cases failed.symm.trans answer
      show Code.notFound ≠ Code.forbidden
      decide
  refine ⟨⟨cache, known⟩, verified, ?_⟩
  rw [Gate.passGate_admitted entered known verified, ← made.enabled]
  exact settles

/-- However durations are read, from settings that pass the checks a gate is made.  For every
    seed that is carried out on an empty store, and every request about something in its index,
    with no more than the idle limit between login and request: the login fails exactly for
    those whom the seed turns down, always in the words for wrong credentials.  After a login,
    the cookie that is sent back is known as the same token, and the token verifies.  The action
    is reported as allowed exactly if the guard is switched off or the authorizer allows it, and
    as denied exactly if the guard is on and the authorizer denies it.  Nothing else can go wrong
    then but that the guard is on and the request is about the account of another user, which no
    resource is. -/
theorem check_answers {read : DurationReader} {settings : Settings}
    (valid : settings.validate read = .ok ()) :
    ∃ salt sessions g, settings.credentials read = .ok (salt, sessions) ∧
      settings.gate salt Backend.direct read = .ok g ∧
      ∀ (ids : Nat → ObjectId) (now later : Moment) (nonce : UInt64) (seed : Seed) (w : Sowing)
        (r : CheckRequest) (target : ObjectId), Function.Injective ids →
        seed.sow ⟨ids, now.date, salt⟩ .empty = (w, none) →
        w.index.target r.resource = .ok target →
        Close sessions.idleLimit now.elapsed later.elapsed →
        let entered := g.login now nonce ⟨⟨r.user⟩, r.password⟩ ⟨w.store, sessions⟩
        let answer := checkSeed settings salt sessions now later nonce ids seed r read
        let decided :=
          (w.store.lookups.decision ⟨r.user⟩ (Mask.single r.action) target).map Decision.allow
        ((∃ f, entered.1 = .error f) ↔ seed.TurnsDown salt r.user r.password) ∧
        (∀ f, entered.1 = .error f →
          f = UserId.refusal ⟨r.user⟩ ∧ answer = .error (failureTrouble f)) ∧
        ∀ t s, entered = (.ok t, s) →
          t.userId = ⟨r.user⟩ ∧
          (∃ cache, g.authenticateCookie later (some (cookiePair (g.setCookie t))) s =
            (some t, ⟨s.store, cache⟩)) ∧
          g.authenticateSession (some t) s.store = .ok () ∧
          (Reports answer true ↔ settings.authorize = false ∨ decided = .ok true) ∧
          (Reports answer false ↔ settings.authorize = true ∧ decided = .ok false) ∧
          ∀ trouble, answer = .error trouble ↔
            settings.authorize = true ∧ w.store.AccountOfOther ⟨r.user⟩ target ∧
              trouble = failureTrouble (Failure.noSuch "resource" target.value) := by
  obtain ⟨salt, sessions, g, policy, made⟩ := Settings.makes_of_valid valid
  refine ⟨salt, sessions, g, made.credentials, made.gate, ?_⟩
  intro ids now later nonce seed w r target fresh sown found close entered answer decided
  obtain ⟨log, housed⟩ := Housed.of_sow (e := ⟨ids, now.date, salt⟩) fresh sown
  have sound := housed.run.sound
  have passed : answer =
      (passGate g now later nonce r target ⟨w.store, sessions⟩ >>= checkReply r) := by
    simp only [answer, checkSeed, sown, found, made.gate]
    rfl
  have checks : g.authenticator now.date =
      Backend.direct.check g.salt policy now.date now.date := by
    rw [made.checks, made.salted]
    rfl
  -- the seed decides who gets in, and for those who do the switch and the decision are left
  have entry := Gate.entry sound checks nonce ⟨⟨r.user⟩, r.password⟩ (s := ⟨w.store, sessions⟩)
  rcases entry.first housed made.salted made.lenient with
    ⟨down, s, refused⟩ | ⟨upright, u, stored, own, admitted⟩
  · have refused : entered = (.error (UserId.refusal ⟨r.user⟩), s) := refused
    refine ⟨iff_of_true ⟨_, congrArg Prod.fst refused⟩ down, ?_, ?_⟩
    · intro f failed
      rw [refused] at failed
      cases failed
      refine ⟨rfl, ?_⟩
      rw [passed, Gate.passGate_refused refused]
      rfl
    · intro t s' admitted
      rw [refused] at admitted
      cases admitted
  · have admitted : entered = _ := admitted
    have noFailure : ∀ f, entered.1 ≠ .error f := by
      intro f
      rw [admitted]
      exact nofun
    have noneFails : ¬∃ f, entered.1 = .error f := by
      rintro ⟨f, failed⟩
      exact noFailure f failed
    refine ⟨iff_of_false noneFails upright, fun f failed => absurd failed (noFailure f), ?_⟩
    intro t s same
    rw [admitted] at same
    cases same
    obtain ⟨known, verified, settles⟩ :=
      made.admitted housed.run close (housed.of_target found) stored own admitted
    rw [← passed] at settles
    refine ⟨rfl, known, verified, settles.allowed_iff, settles.denied_iff, fun trouble => ?_⟩
    rw [settles.error_iff]
    refine and_congr_right fun _ => ?_
    rcases sound.decision_cases stored own r.action (housed.of_target found) with
      ⟨noOther, allow, answer⟩ | ⟨other, answer⟩
    · simp [answer, noOther]
    · simp [answer, other]

theorem Seed.sown_sample (salt : Salt) :
    ∃ w, Seed.sample.sow ⟨Supply.sample.ids, ⟨5⟩, salt⟩ .empty = (w, none) ∧
      w.index.target "acme/app" = .ok (Supply.sample.ids 3) ∧
      (w.store.lookups.decision ⟨"ann"⟩ (Mask.single .write) (Supply.sample.ids 3)).map
        Decision.allow = .ok true :=
  ⟨_, rfl, rfl, rfl⟩

/-- The user of the sample may write to the repository, by its group and the realm. -/
theorem check_answers_sample :
    Settings.sample.validate = .ok () ∧
      ∃ salt sessions, Settings.sample.credentials = .ok (salt, sessions) ∧
        Reports (checkSeed Settings.sample salt sessions ⟨⟨5⟩, ⟨5⟩⟩ ⟨⟨6⟩, ⟨5⟩⟩ 7 Supply.sample.ids
          Seed.sample ⟨none, "ann", "secret", .write, "acme/app", none⟩) true := by
  have valid : Settings.sample.validate = .ok () := by decide
  obtain ⟨salt, sessions, g, made, -, checks⟩ := check_answers valid
  obtain ⟨w, sown, found, allows⟩ := Seed.sown_sample salt
  have close : Close sessions.idleLimit ⟨5⟩ ⟨5⟩ := fun _ _ => by simp
  obtain ⟨fails, -, after⟩ := checks Supply.sample.ids ⟨⟨5⟩, ⟨5⟩⟩ ⟨⟨6⟩, ⟨5⟩⟩ 7 Seed.sample w
    ⟨none, "ann", "secret", .write, "acme/app", none⟩ _ Supply.sample_injective sown found close
  have upright : ¬Seed.sample.TurnsDown salt "ann" "secret" := by
    rintro (empty | nobody | ⟨u, hu, _, differs⟩)
    · exact absurd empty (by decide)
    · exact nobody _ (List.mem_singleton_self _) rfl
    · cases List.mem_singleton.1 hu
      exact differs rfl
  refine ⟨valid, salt, sessions, made, ?_⟩
  rcases entered : g.login ⟨⟨5⟩, ⟨5⟩⟩ 7 ⟨⟨"ann"⟩, "secret"⟩ ⟨w.store, sessions⟩ with ⟨f | t, s⟩
  · exact absurd (fails.1 ⟨f, congrArg Prod.fst entered⟩) upright
  · obtain ⟨-, -, -, allowed, -⟩ := after t s entered
    exact allowed.2 (Or.inr allows)

end AccessControl
