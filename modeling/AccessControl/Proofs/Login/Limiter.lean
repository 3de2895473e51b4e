/-
  AccessControl/Proofs/Login/Limiter.lean
  =======================================
  **The login limiter, over whole runs.**

  A run is made of login attempts, of any users with any passwords, and of changes of the
  store that do not touch the histories of logins.  The clock never goes back, is read once
  to see whether a user is blocked, and again when the attempt goes on record.

  What a user's history is can be told from the run alone: it has the attempts of this user
  that were answered, and none from before the user was made (`ownRecord`).  Blocked
  attempts leave no trace, and neither do those of other users.  Every history of a run is
  admitted, in the sense of `Admitted`, so that the limit holds in every window, and a user
  is blocked exactly while the window holds as many failures as the limit allows.

  ## Main definitions

  * `LoginEvent`, `LoginStep`, `LoginRun`: attempts and changes, one after another;
  * `ownRecord`: the history of a user, as it follows from a run;
  * `Guarded`: what is known of the history of a user.

  ## Main statements

  * `check_cases`: what becomes of an attempt;
  * `LoginStep.guarded`, `LoginRun.guarded`: histories stay guarded;
  * `blocking?_of_guarded`: when a user is blocked;
  * `limiter_holds`: all of it, for every run.
-/
import AccessControl.Proofs.Login.Window
import AccessControl.Proofs.Store.Connected

namespace AccessControl

open Digest

/-! ## 1. Runs -/

/-- An attempt to log in, with both readings of the clock and the answer, or a change of the
    store. -/
inductive LoginEvent where
  | attempt (c : Credentials) (asked recorded : Timestamp)
      (answer : Except Failure LoginOutcome)
  | deed (d : Deed)

def Change.LeavesRecords (c : Change) : Prop := ∀ i a, c ≠ .recordAttempt i a

/-- One event, from a stage and a reading of the clock to the next ones. -/
inductive LoginStep (salt : Salt) (policy : LoginPolicy) (w : Stage) (clock : Timestamp) :
    LoginEvent → Stage → Timestamp → Prop
  | attempt {c : Credentials} {asked recorded : Timestamp}
      {answer : Except Failure LoginOutcome} {t : Store}
      (onward : clock.millis.toInt ≤ asked.millis.toInt)
      (later : asked.millis.toInt ≤ recorded.millis.toInt)
      (tried : Backend.direct.check salt policy asked recorded c w.store = (answer, t)) :
      LoginStep salt policy w clock (.attempt c asked recorded answer) ⟨t, w.drawn⟩ recorded
  | deed {d : Deed} {v : Stage} (step : Step w d v) (other : d.change.LeavesRecords) :
      LoginStep salt policy w clock (.deed d) v clock

/-- Events one after another, while the clock goes on from 0. -/
inductive LoginRun (salt : Salt) (policy : LoginPolicy) (w : Stage) :
    List LoginEvent → Stage → Timestamp → Prop
  | stay : LoginRun salt policy w [] w ⟨0⟩
  | more {events : List LoginEvent} {e : LoginEvent} {v v' : Stage} {clock clock' : Timestamp}
      (first : LoginRun salt policy w events v clock)
      (last : LoginStep salt policy v clock e v' clock') :
      LoginRun salt policy w (events ++ [e]) v' clock'

/-! ## 2. Histories, from the run -/

/-- What an event adds to the history of the user with a login.  A user that is made starts
    anew. -/
def LoginEvent.extend (login : UserId) (history : List LoginAttempt) :
    LoginEvent → List LoginAttempt
  | attempt c _ recorded (.ok outcome) =>
    if c.userId = login then history ++ [⟨recorded, outcome = .authenticated login⟩] else history
  | attempt _ _ _ (.error _) => history
  | deed ⟨.createUser _ _ _ login' _ _, true⟩ => if login' = login then [] else history
  | deed _ => history

/-- The history of the user with a login, from the events so far. -/
def ownRecord (login : UserId) (events : List LoginEvent) : List LoginAttempt :=
  events.foldl (LoginEvent.extend login) []

theorem ownRecord_concat (login : UserId) (events : List LoginEvent) (e : LoginEvent) :
    ownRecord login (events ++ [e]) = e.extend login (ownRecord login events) := by
  rw [ownRecord, List.foldl_append]
  rfl

theorem LoginEvent.extend_answered {login known : UserId} {history : List LoginAttempt}
    {c : Credentials} {asked recorded : Timestamp} (same : known = c.userId) (succeeded : Bool) :
    (LoginEvent.attempt c asked recorded
        (.ok (if succeeded then .authenticated known else .wrong))).extend login history =
      if c.userId = login then history ++ [⟨recorded, succeeded⟩] else history := by
  subst same
  by_cases own : c.userId = login
  · subst own
    cases succeeded <;> simp [extend, LoginOutcome.wrong]
  · simp [extend, own]

theorem LoginEvent.extend_deed {login : UserId} {history : List LoginAttempt} {d : Deed}
    (other : ∀ id now realmId name passwordHash,
      d ≠ ⟨.createUser id now realmId login name passwordHash, true⟩) :
    (LoginEvent.deed d).extend login history = history := by
  obtain ⟨c, done⟩ := d
  cases done with
  | false => cases c <;> rfl
  | true =>
    cases c with
    | createUser id now realmId login' name passwordHash =>
      by_cases same : login' = login
      · rw [same] at other
        exact absurd rfl (other id now realmId name passwordHash)
      · exact if_neg same
    | _ => rfl

/-! ## 3. What becomes of an attempt -/

section Check

variable {s : Store}

theorem Store.Sound.lookup_cases (h : s.Sound) (login : UserId) :
    (∃ f, s.lookups.user login = .error f ∧ f.isNotFound = true ∧
        ∀ i u, s.parties.get? i = some (.user u) → u.userId ≠ login) ∨
      ∃ u, s.lookups.user login = .ok u ∧ s.parties.get? u.info.id = some (.user u) ∧
        u.userId = login := by
  have lookup : s.lookups.user login = (s.user login).mapError Refusal.failure := rfl
  rcases found : s.user login with refusal | u
  · refine Or.inl ⟨refusal.failure, by rw [lookup, found]; rfl, ?_, fun i u hu same => ?_⟩
    · rcases known : ((s.logins.get? login).bind s.parties.get?).bind Party.user? with _ | u
      · rw [Store.user, known] at found
        cases found
        rfl
      · rw [Store.user, known] at found
        cases found
    · have own : u.info.id = i := h.parties i (.user u) hu
      rw [h.user_eq_ok.2 ⟨own ▸ hu, same⟩] at found
      cases found
  · obtain ⟨stored, same⟩ := h.user_eq_ok.1 found
    exact Or.inr ⟨u, by rw [lookup, found]; rfl, stored, same⟩

theorem Store.recordAttempt_of_stored {i : ObjectId} {u : User}
    (stored : s.parties.get? i = some (.user u)) (a : LoginAttempt) :
    s.recordAttempt i a =
      .ok { s with
        parties := s.parties.put i (.user { u with attempts := u.attempts ++ [a] }) } := by
  rw [Store.recordAttempt, Store.party, stored]
  rfl

/-- The login is unknown, the user is blocked, or the attempt goes on record and is
    answered. -/
theorem check_cases (h : s.Sound) (salt : Salt) (policy : LoginPolicy)
    (asked recorded : Timestamp) (c : Credentials) :
    (∀ i u, s.parties.get? i = some (.user u) → u.userId ≠ c.userId) ∧
        Backend.direct.check salt policy asked recorded c s = (.ok .wrong, s) ∨
      ∃ u, s.parties.get? u.info.id = some (.user u) ∧ u.userId = c.userId ∧
        ((∃ failures, policy.blocking? asked u = some failures ∧
            Backend.direct.check salt policy asked recorded c s =
              (.error (Failure.tooManyAttempts failures), s)) ∨
          policy.blocking? asked u = none ∧
            let succeeded := salt.verifyPassword c.password u.passwordHash
            Backend.direct.check salt policy asked recorded c s =
              (.ok (if succeeded then .authenticated u.userId else .wrong),
                { s with
                  parties := s.parties.put u.info.id
                    (.user { u with attempts := u.attempts ++ [⟨recorded, succeeded⟩] }) })) := by
  rcases h.lookup_cases c.userId with ⟨f, unknown, notFound, nobody⟩ | ⟨u, known, stored, same⟩
  · exact Or.inl ⟨nobody, Backend.check_unknown unknown notFound⟩
  · refine Or.inr ⟨u, stored, same, ?_⟩
    rcases free : policy.blocking? asked u with _ | failures
    · refine Or.inr ⟨rfl, Backend.check_recorded known free ?_⟩
      show (s.recordAttempt u.info.id _).mapError Refusal.failure = _
      rw [Store.recordAttempt_of_stored stored]
      rfl
    · exact Or.inl ⟨failures, rfl, Backend.check_blocked known free⟩

end Check

/-! ## 4. What changes of the store do to histories -/

def Party.record? (p : Party) : Option (UserId × List LoginAttempt) :=
  p.user?.map fun u => (u.userId, u.attempts)

theorem Party.record?_withInfo (p : Party) (info : PartyInfo) :
    (p.withInfo info).record? = p.record? := by
  cases p <;> rfl

theorem user_of_record {parties : Shelf ObjectId Party} {i : ObjectId} {login : UserId}
    {history : List LoginAttempt}
    (h : parties.view Party.record? i = some (some (login, history))) :
    ∃ u, parties.get? i = some (.user u) ∧ u.userId = login ∧ u.attempts = history := by
  obtain ⟨p, hp, known⟩ := Shelf.view_eq_some.1 h
  cases p with
  | group g => cases known
  | user u =>
    cases known
    exact ⟨u, hp, rfl, rfl⟩

namespace Change.Effect

variable {c : Change} {s t : Store}

theorem records_lasting (he : c.Effect s t) (other : c.LeavesRecords) (i : ObjectId) :
    t.parties.view Party.record? i = s.parties.view Party.record? i ∨
      t.parties.view Party.record? i = some none ∨
      ∃ now realmId login name passwordHash,
        c = createUser i now realmId login name passwordHash ∧
        t.parties.view Party.record? i = some (some (login, [])) := by
  induction he with
  | realm => exact Or.inl rfl
  | resource => exact Or.inl rfl
  | repository _ ih =>
    rcases ih fun i a => nofun with same | group | ⟨_, _, _, _, _, made, _⟩
    · exact Or.inl same
    · exact Or.inr (Or.inl group)
    · cases made
  | @user id =>
    by_cases new : i = id
    · subst new
      exact Or.inr (Or.inr ⟨_, _, _, _, _, rfl, Shelf.view_of_get? (Shelf.get?_put_self _ _ _)⟩)
    · exact Or.inl ((Shelf.view_put _ _ _).trans (if_neg new))
  | @group id =>
    by_cases new : i = id
    · subst new
      exact Or.inr (Or.inl (Shelf.view_of_get? (Shelf.get?_put_self _ _ _)))
    · exact Or.inl ((Shelf.view_put _ _ _).trans (if_neg new))
  | @member userObject groupId u g hu hg _ =>
    have hg' := group_stays hu hg (.user
      { u with groupIds := ObjectId.append u.groupIds groupId })
    refine Or.inl ((congrFun (Shelf.view_put_same hg' ?_) i).trans
      (congrFun (Shelf.view_put_same hu ?_) i))
    · rfl
    · rfl
  | remask => exact Or.inl rfl
  | grant _ _ hp => exact Or.inl (congrFun (Shelf.view_put_same hp (Party.record?_withInfo _ _)) i)
  | @revoke _ partyId =>
    rcases found : s.parties.get? partyId with _ | p
    · exact Or.inl rfl
    · exact Or.inl (congrFun (Shelf.view_put_same found (Party.record?_withInfo _ _)) i)
  | attempt => exact absurd rfl (other _ _)

end Change.Effect

theorem Store.Sound.login_free {s t : Store} (h : s.Sound) {id realmId : ObjectId}
    {now : Timestamp} {login : UserId} {name passwordHash : String}
    (he : (Change.createUser id now realmId login name passwordHash).Effect s t) {i : ObjectId}
    {history : List LoginAttempt} :
    s.parties.view Party.record? i ≠ some (some (login, history)) := by
  intro taken
  obtain ⟨u, hu, rfl, rfl⟩ := user_of_record taken
  have listed := (h.connected.known u.userId i).2 (Shelf.view_of_get? hu)
  cases he with
  | user free =>
    rw [free] at listed
    cases listed
  | remask asks => cases asks
  | grant asks => cases asks

theorem Store.Sound.user_unique {s : Store} (h : s.Sound) {i j : ObjectId} {u u' : User}
    (hu : s.parties.get? i = some (.user u)) (hu' : s.parties.get? j = some (.user u'))
    (same : u'.userId = u.userId) : j = i ∧ u' = u := by
  have own : u.info.id = i := h.parties i (.user u) hu
  have own' : u'.info.id = j := h.parties j (.user u') hu'
  subst own own'
  have both := (h.user_eq_ok.2 ⟨hu', same⟩).symm.trans (h.user_eq_ok.2 ⟨hu, rfl⟩)
  cases both
  exact ⟨rfl, rfl⟩

/-! ## 5. Histories stay guarded -/

/-- All that is known of the history of the user with a login, after some events: it is the
    one that follows from the run, it is admitted, and its times lie between 0 and now. -/
structure Guarded (policy : LoginPolicy) (limit : Nat) (events : List LoginEvent)
    (clock : Timestamp) (login : UserId) (history : List LoginAttempt) : Prop where
  own : history = ownRecord login events
  admitted : Admitted policy.window limit history
  timely : ∀ a ∈ history, 0 ≤ a.time.millis.toInt ∧ a.time.millis.toInt ≤ clock.millis.toInt

theorem Guarded.nil {policy : LoginPolicy} {limit : Nat} {events : List LoginEvent}
    {clock : Timestamp} {login : UserId} (own : ownRecord login events = []) :
    Guarded policy limit events clock login [] where
  own := own.symm
  admitted := .nil
  timely _ ha := by cases ha

/-- An event that adds nothing to a history leaves it guarded, while time goes on. -/
theorem Guarded.later {policy : LoginPolicy} {limit : Nat} {events : List LoginEvent}
    {e : LoginEvent} {clock clock' : Timestamp} {login : UserId} {history : List LoginAttempt}
    (h : Guarded policy limit events clock login history)
    (onward : clock.millis.toInt ≤ clock'.millis.toInt)
    (untouched : e.extend login history = history) :
    Guarded policy limit (events ++ [e]) clock' login history where
  own := by rw [ownRecord_concat, ← h.own, untouched]
  admitted := h.admitted
  timely a ha := ⟨(h.timely a ha).1, Int.le_trans (h.timely a ha).2 onward⟩

/-- An attempt that goes on record when the window has room keeps a history guarded. -/
theorem Guarded.concat {policy : LoginPolicy} {limit : Nat} {events : List LoginEvent}
    {e : LoginEvent} {clock asked : Timestamp} {login : UserId} {history : List LoginAttempt}
    {a : LoginAttempt} (h : Guarded policy limit events clock login history)
    (start : 0 ≤ clock.millis.toInt) (onward : clock.millis.toInt ≤ asked.millis.toInt)
    (later : asked.millis.toInt ≤ a.time.millis.toInt)
    (room : recent policy.window asked history < limit)
    (extended : e.extend login history = history ++ [a]) :
    Guarded policy limit (events ++ [e]) a.time login (history ++ [a]) where
  own := by rw [ownRecord_concat, ← h.own, extended]
  admitted := by
    have past : ∀ b ∈ history, b.time.millis.toInt ≤ asked.millis.toInt :=
      fun b hb => Int.le_trans (h.timely b hb).2 onward
    refine .concat h.admitted (fun b hb => Int.le_trans (past b hb) later) ?_
    exact Nat.lt_of_le_of_lt (recent_le_earlier policy.window later past) room
  timely b hb := by
    rcases List.mem_append.1 hb with hb | hb
    · have := h.timely b hb
      omega
    · rw [List.mem_singleton.1 hb]
      omega

/-- A user is blocked exactly if as many failures as the limit lie in the window. -/
theorem blocking?_of_guarded {policy : LoginPolicy} {limit : UInt32}
    (limited : policy.maxFailures = some limit) {events : List LoginEvent}
    {clock asked : Timestamp} {u : User}
    (h : Guarded policy limit.toNat events clock u.userId u.attempts)
    (onward : clock.millis.toInt ≤ asked.millis.toInt) :
    recent policy.window asked u.attempts ≤ limit.toNat ∧
      policy.blocking? asked u =
        if recent policy.window asked u.attempts = limit.toNat then some limit.toNat else none := by
  have timely : ∀ a ∈ u.attempts, 0 ≤ a.time.millis.toInt ∧
      a.time.millis.toInt ≤ asked.millis.toInt :=
    fun a ha => ⟨(h.timely a ha).1, Int.le_trans (h.timely a ha).2 onward⟩
  have most := h.admitted.recent_le fun a ha => (timely a ha).2
  refine ⟨most, ?_⟩
  rw [LoginPolicy.blocking?, limited, recentFailures_eq policy timely]
  by_cases full : recent policy.window asked u.attempts = limit.toNat
  · simp [full]
  · have fewer : ¬limit.toNat ≤ recent policy.window asked u.attempts := by omega
    simp [full, fewer]

def AllGuarded (policy : LoginPolicy) (limit : Nat) (events : List LoginEvent) (s : Store)
    (clock : Timestamp) : Prop :=
  ∀ i login history, s.parties.view Party.record? i = some (some (login, history)) →
    Guarded policy limit events clock login history

section Steps

variable {salt : Salt} {policy : LoginPolicy} {limit : UInt32} {events : List LoginEvent}
  {v v' : Stage} {clock clock' : Timestamp} {e : LoginEvent}

theorem LoginStep.onward (hs : LoginStep salt policy v clock e v' clock') :
    clock.millis.toInt ≤ clock'.millis.toInt := by
  cases hs with
  | attempt onward later => exact Int.le_trans onward later
  | deed => exact Int.le_refl _

/-- A change of the store keeps histories guarded. -/
theorem Step.guarded {d : Deed} (hs : Step v d v') (sound : v.store.Sound)
    (other : d.change.LeavesRecords)
    (h : AllGuarded policy limit.toNat events v.store clock) :
    AllGuarded policy limit.toNat (events ++ [.deed d]) v'.store clock := by
  cases hs with
  | refused =>
    intro i login history found
    refine (h i login history found).later (Int.le_refl _) (LoginEvent.extend_deed ?_)
    intro id now realmId name passwordHash made
    cases made
  | @done c t performed =>
    have he := Change.effect_of_perform performed
    intro i login history found
    rcases he.records_lasting other i with same | group | ⟨_, _, _, _, _, rfl, anew⟩
    · refine (h i login history (same ▸ found)).later (Int.le_refl _) (LoginEvent.extend_deed ?_)
      intro id now realmId name passwordHash made
      cases made
      exact sound.login_free he (same ▸ found)
    · rw [group] at found
      cases found
    · rw [anew] at found
      cases found
      refine .nil ?_
      rw [ownRecord_concat]
      exact if_pos rfl

/-- So does an attempt: it goes on record only if the window has room for it. -/
theorem LoginStep.guarded (hs : LoginStep salt policy v clock e v' clock')
    (sound : v.store.Sound) (start : 0 ≤ clock.millis.toInt)
    (limited : policy.maxFailures = some limit)
    (h : AllGuarded policy limit.toNat events v.store clock) :
    AllGuarded policy limit.toNat (events ++ [e]) v'.store clock' := by
  have onward' := hs.onward
  cases hs with
  | deed step other => exact step.guarded sound other h
  | @attempt c asked recorded answer t onward later tried =>
    rcases check_cases sound salt policy asked clock' c with
      ⟨nobody, unknown⟩ | ⟨u, stored, same, ⟨failures, _, blocked⟩ | ⟨free, answered⟩⟩
    · -- the login is not that of a user with a history
      rw [unknown] at tried
      cases tried
      intro i login history found
      refine (h i login history found).later onward' (if_neg ?_)
      obtain ⟨u, hu, rfl, rfl⟩ := user_of_record found
      exact (nobody i u hu).symm
    · rw [blocked] at tried
      cases tried
      intro i login history found
      exact (h i login history found).later onward' rfl
    · rw [answered] at tried
      cases tried
      intro i login history found
      rw [Shelf.view_put] at found
      by_cases own : i = u.info.id
      · rw [if_pos own] at found
        cases found
        have before := h u.info.id u.userId u.attempts (Shelf.view_of_get? stored)
        obtain ⟨most, blocked⟩ := blocking?_of_guarded limited before onward
        have room : recent policy.window asked u.attempts < limit.toNat := by
          rw [blocked] at free
          refine Nat.lt_of_le_of_ne most fun full => ?_
          rw [if_pos full] at free
          cases free
        refine before.concat (a := ⟨clock', _⟩) start onward later room ?_
        exact (LoginEvent.extend_answered same _).trans (if_pos same.symm)
      · -- another user has another login
        rw [if_neg own] at found
        refine (h i login history found).later onward' ?_
        refine (LoginEvent.extend_answered same _).trans (if_neg fun known => own ?_)
        obtain ⟨u', hu', rfl, rfl⟩ := user_of_record found
        exact (sound.user_unique stored hu' (same.trans known).symm).1

/-! ## 6. Whole runs -/

theorem LoginRun.onward {w : Stage} (h : LoginRun salt policy w events v clock) :
    0 ≤ clock.millis.toInt := by
  induction h with
  | stay => decide
  | more _ last ih => exact Int.le_trans ih last.onward

theorem LoginStep.run (hs : LoginStep salt policy v clock e v' clock') (sound : v.store.Sound) :
    ∃ log, Run v log v' := by
  cases hs with
  | deed step => exact ⟨_, .more .stay step⟩
  | @attempt c asked recorded answer t _ _ tried =>
    rcases check_cases sound salt policy asked clock' c with
      ⟨_, unknown⟩ | ⟨u, stored, _, ⟨_, _, blocked⟩ | ⟨_, answered⟩⟩
    · rw [unknown] at tried
      cases tried
      exact ⟨[], .stay⟩
    · rw [blocked] at tried
      cases tried
      exact ⟨[], .stay⟩
    · rw [answered] at tried
      cases tried
      have performed := Store.recordAttempt_of_stored stored
        ⟨clock', salt.verifyPassword c.password u.passwordHash⟩
      have step := Step.done (w := v) (c := .recordAttempt u.info.id _) performed nofun
      exact ⟨_, .more .stay ((List.append_nil v.drawn) ▸ step)⟩

theorem LoginRun.run {w : Stage} {log : List Deed} (begun : Run .start log w)
    (h : LoginRun salt policy w events v clock) : ∃ log', Run .start log' v := by
  induction h with
  | stay => exact ⟨log, begun⟩
  | more _ last ih =>
    obtain ⟨log', run⟩ := ih
    obtain ⟨more, step⟩ := last.run run.sound
    exact ⟨log' ++ more, run.trans step⟩

/-- If all histories are empty at first, they stay guarded. -/
theorem LoginRun.guarded {w : Stage} {log : List Deed} (begun : Run .start log w)
    (clean : ∀ i u, w.store.parties.get? i = some (.user u) → u.attempts = [])
    (limited : policy.maxFailures = some limit) (h : LoginRun salt policy w events v clock) :
    AllGuarded policy limit.toNat events v.store clock := by
  induction h with
  | stay =>
    intro i login history found
    obtain ⟨u, hu, rfl, rfl⟩ := user_of_record found
    rw [clean i u hu]
    exact .nil rfl
  | more first last ih =>
    obtain ⟨_, run⟩ := first.run begun
    exact last.guarded run.sound first.onward limited ih

theorem check_of_guarded {s : Store} (sound : s.Sound) (limited : policy.maxFailures = some limit)
    {i : ObjectId} {u : User} (stored : s.parties.get? i = some (.user u))
    (h : Guarded policy limit.toNat events clock u.userId u.attempts) {c : Credentials}
    {asked recorded : Timestamp} (own : c.userId = u.userId)
    (onward : clock.millis.toInt ≤ asked.millis.toInt) :
    (Backend.direct.check salt policy asked recorded c s).1 =
      if recent policy.window asked u.attempts = limit.toNat then
        .error (Failure.tooManyAttempts limit.toNat)
      else if salt.verifyPassword c.password u.passwordHash then .ok (.authenticated u.userId)
      else .ok .wrong := by
  obtain ⟨_, blocking⟩ := blocking?_of_guarded limited h onward
  rcases check_cases sound salt policy asked recorded c with
    ⟨nobody, _⟩ | ⟨u', stored', same, outcome⟩
  · exact absurd own.symm (nobody i u stored)
  · obtain ⟨_, rfl⟩ := sound.user_unique stored stored' (same.trans own)
    rw [blocking] at outcome
    by_cases full : recent policy.window asked u'.attempts = limit.toNat
    · rw [if_pos full] at outcome ⊢
      rcases outcome with ⟨failures, blocked, answer⟩ | ⟨free, _⟩
      · cases blocked
        rw [answer]
      · cases free
    · rw [if_neg full] at outcome ⊢
      rcases outcome with ⟨failures, blocked, _⟩ | ⟨_, answer⟩
      · cases blocked
      · rw [answer]
        exact apply_ite Except.ok _ _ _

end Steps

/-- From a store in which nobody has tried to log in, after every run of logins under a
    limit, this holds of every user.  The history is the one that follows from the run.
    Of failures with no success between them, no more than the limit lie in a window that
    ends at one of them.  The next attempt is refused exactly if as many failures as the
    limit, after the last success, lie in the window that ends when it is made; any other
    is answered, by the password alone.  Who has no login is told the same as who has no
    password. -/
theorem limiter_holds {salt : Salt} {policy : LoginPolicy} {limit : UInt32}
    (limited : policy.maxFailures = some limit) {w v : Stage} {log : List Deed}
    (begun : Run .start log w)
    (clean : ∀ i u, w.store.parties.get? i = some (.user u) → u.attempts = [])
    {events : List LoginEvent} {clock : Timestamp} (run : LoginRun salt policy w events v clock) :
    (∀ i u, v.store.parties.get? i = some (.user u) →
      u.attempts = ownRecord u.userId events ∧
      (∀ before streak after, u.attempts = before ++ streak ++ after →
        (∀ a ∈ streak, a.succeeded = false) →
        ∀ a ∈ streak, streak.countP (policy.window.covers a.time) ≤ limit.toNat) ∧
      ∀ c asked recorded, c.userId = u.userId → clock.millis.toInt ≤ asked.millis.toInt →
        (Backend.direct.check salt policy asked recorded c v.store).1 =
          if recent policy.window asked (ownRecord u.userId events) = limit.toNat then
            .error (Failure.tooManyAttempts limit.toNat)
          else if salt.verifyPassword c.password u.passwordHash then .ok (.authenticated u.userId)
          else .ok .wrong) ∧
    ∀ c asked recorded,
      (∀ i u, v.store.parties.get? i = some (.user u) → u.userId ≠ c.userId) →
        (Backend.direct.check salt policy asked recorded c v.store).1 = .ok .wrong := by
  obtain ⟨_, reached⟩ := run.run begun
  have sound := reached.sound
  refine ⟨fun i u stored => ?_, fun c asked recorded nobody => ?_⟩
  · have guarded := run.guarded begun clean limited i u.userId u.attempts
      (Shelf.view_of_get? stored)
    refine ⟨guarded.own, fun before streak after split failed a ha => ?_, ?_⟩
    · exact guarded.admitted.bound split failed ha
    · intro c asked recorded same onward
      rw [← guarded.own]
      exact check_of_guarded sound limited stored guarded same onward
  · rcases check_cases sound salt policy asked recorded c with ⟨_, unknown⟩ | ⟨u, stored, same, _⟩
    · rw [unknown]
    · exact absurd same (nobody _ u stored)

theorem limiter_holds_sample :
    let salt : Salt := ⟨[0], by decide⟩
    let policy : LoginPolicy := ⟨some 1, .ofMillis 1⟩
    let guess : Credentials := ⟨⟨"ann"⟩, "guess"⟩
    ∃ w v events, LoginRun salt policy w events v ⟨6⟩ ∧
      (Backend.direct.check salt policy ⟨7⟩ ⟨7⟩ guess v.store).1 =
        .error (Failure.tooManyAttempts 1) ∧
      (Backend.direct.check salt policy ⟨8⟩ ⟨8⟩ guess v.store).1 = .ok .wrong := by
  intro salt policy guess
  -- a user whose password has no digest
  let w := (Stage.start.reach (Change.sample.take 3)).2
  let ann := User.new (.new ⟨"ann"⟩ ⟨2⟩ "Ann" ⟨"realm"⟩) ⟨"ann"⟩ ""
  have begun : Run .start _ w := Stage.start.run_reach _
  have only : w.store.parties.entries = [(⟨"ann"⟩, .user ann)] := by decide
  have clean : ∀ i u, w.store.parties.get? i = some (.user u) → u.attempts = [] := by
    intro i u hu
    rw [Shelf.get?_eq_some, only, List.mem_singleton] at hu
    cases hu
    rfl
  have wrong : salt.verifyPassword guess.password ann.passwordHash = false := by
    rw [Bool.eq_false_iff]
    intro right
    have length := salt.length_digestText guess.password
    rw [← Salt.hashPassword, ← Salt.verifyPassword_iff.1 right] at length
    cases length
  -- it fails once, and may try again after the window
  have known : (Backend.direct.lookups w.store).user guess.userId = .ok ann := rfl
  have recorded : Backend.direct.record w.store ann.info.id
      ⟨⟨6⟩, salt.verifyPassword guess.password ann.passwordHash⟩ =
        .ok { w.store with
          parties := w.store.parties.put ⟨"ann"⟩
            (.user { ann with attempts := [⟨⟨6⟩, false⟩] }) } := by
    rw [wrong]
    rfl
  have first : Backend.direct.check salt policy ⟨5⟩ ⟨6⟩ guess w.store = _ :=
    Backend.check_recorded known (by decide) recorded
  rw [wrong] at first
  have run : LoginRun salt policy w [.attempt guess ⟨5⟩ ⟨6⟩ (.ok .wrong)] ⟨_, w.drawn⟩ ⟨6⟩ :=
    .more .stay (.attempt (by decide) (by decide) first)
  obtain ⟨users, -⟩ := limiter_holds rfl begun clean run
  obtain ⟨-, -, answers⟩ := users ⟨"ann"⟩ _ (Shelf.get?_put_self _ _ _)
  refine ⟨w, _, _, run, ?_, ?_⟩
  · rw [answers guess ⟨7⟩ ⟨7⟩ rfl (by decide)]
    exact if_pos (by decide)
  · rw [answers guess ⟨8⟩ ⟨8⟩ rfl (by decide), if_neg (by decide)]
    exact if_neg (Bool.eq_false_iff.1 wrong)

end AccessControl
