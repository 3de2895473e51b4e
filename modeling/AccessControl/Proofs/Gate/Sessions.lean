/-
  AccessControl/Proofs/Gate/Sessions.lean
  =======================================
  **The two ways to tell who sends a request, over whole runs.**

  At a gate users log in and out, sessions are cleared and swept, requests are checked by their
  cookies and by their tokens, and behind it the store is changed.  A token that a login gave
  goes on verifying from then on: the check looks at the salt and at the user, and no user is
  ever lost.  The cookie of the token is another matter.  It is known only as long as the cache
  has the session, and after a logout or a clearing it is never known again.  Whenever a cookie
  is known, it is known as the very token that was given, so that a session never passes to
  somebody else.  The last two hold because no session id is given twice, and the session of an
  id is put in the cache by the login that gives the id, and by nothing else.

  ## Main definitions

  * `GateEvent`, `GateStep`, `GateRun`: what happens at a gate, one after another;
  * `issued`: the tokens that were given, with the numbers of their sessions;
  * `GateEvent.Ends`: the event ends the session of an id.

  ## Main statements

  * `Gate.knows_own_token`: the tokens of the gate verify;
  * `GateStep.get?_cache`: where a session in the cache comes from;
  * `GateRun.kept`: what is known after a run;
  * `session_checks_diverge`: what both checks answer after a run.
-/
import AccessControl.Proofs.Gate.Guard
import AccessControl.Proofs.Gate.Login
import AccessControl.Proofs.Session.Own
import AccessControl.Proofs.Session.Touches
import AccessControl.Proofs.Store.Membership

namespace AccessControl

open Digest

/-! ## 1. Runs -/

/-- What happens at a gate. -/
inductive GateEvent where
  /-- A login, with both readings of the clock, the number of the session that it may get, and
      the answer. -/
  | login (c : Credentials) (now : Moment) (recorded : Timestamp) (nonce : UInt64)
      (answer : Except Failure SessionToken)
  | logout (t : SessionToken)
  | clear
  | evict (now : Duration)
  | cookie (now : Moment) (header : Option String)
  | session (t : Option SessionToken)
  | deed (d : Deed)

/-- One event at a gate with local logins. -/
inductive GateStep (g : Gate) (policy : LoginPolicy) (w : Stage) (cache : SessionCache) :
    GateEvent → Stage → SessionCache → Prop
  | login {c : Credentials} {now : Moment} {recorded : Timestamp} {nonce : UInt64}
      {answer : Except Failure SessionToken} {s : GateState}
      (tried : (g.recordingAt policy recorded).login now nonce c ⟨w.store, cache⟩ = (answer, s)) :
      GateStep g policy w cache (.login c now recorded nonce answer) ⟨s.store, w.drawn⟩ s.sessions
  | logout {t : SessionToken} :
      GateStep g policy w cache (.logout t) w (g.logout t ⟨w.store, cache⟩).sessions
  | clear : GateStep g policy w cache .clear w cache.clear
  | evict {now : Duration} : GateStep g policy w cache (.evict now) w (cache.evict now).2
  | cookie {now : Moment} {header : Option String} {answer : Option SessionToken} {s : GateState}
      (checked : g.authenticateCookie now header ⟨w.store, cache⟩ = (answer, s)) :
      GateStep g policy w cache (.cookie now header) ⟨s.store, w.drawn⟩ s.sessions
  | session {t : Option SessionToken} : GateStep g policy w cache (.session t) w cache
  | deed {d : Deed} {v : Stage} (step : Step w d v) : GateStep g policy w cache (.deed d) v cache

/-- Events one after another, from an empty store and an empty cache with an idle limit. -/
inductive GateRun (g : Gate) (policy : LoginPolicy) (limit : Option Duration) :
    List GateEvent → Stage → SessionCache → Prop
  | start : GateRun g policy limit [] .start (.empty limit)
  | more {events : List GateEvent} {e : GateEvent} {w v : Stage} {cache cache' : SessionCache}
      (first : GateRun g policy limit events w cache)
      (last : GateStep g policy w cache e v cache') :
      GateRun g policy limit (events ++ [e]) v cache'

def GateEvent.issued? : GateEvent → Option (UInt64 × SessionToken)
  | login _ _ _ nonce (.ok t) => some (nonce, t)
  | _ => none

/-- The tokens that were given, with the numbers of their sessions. -/
def issued (events : List GateEvent) : List (UInt64 × SessionToken) :=
  events.filterMap GateEvent.issued?

/-- The event ends the session with an id. -/
def GateEvent.Ends (id : SessionId) : GateEvent → Prop
  | logout t => t.sessionId = id
  | clear => True
  | _ => False

theorem issued_append (events more : List GateEvent) :
    issued (events ++ more) = issued events ++ issued more := List.filterMap_append

/-! ## 2. One event -/

section OneStep

variable {g : Gate} {policy : LoginPolicy} {w v : Stage} {cache cache' : SessionCache}
  {e : GateEvent}

theorem Store.Sound.account_of_login {s : Store} (sound : s.Sound) {login : UserId} {i : ObjectId}
    (known : s.logins.get? login = some i) : ∃ u, s.lookups.account login = .ok u := by
  obtain ⟨u, stored, own⟩ := sound.connected.login_iff.1 known
  have key : u.info.id = i := sound.parties i (.user u) stored
  refine ⟨u, Lookups.account_eq_ok.2 (mapError_eq_ok.2 ?_)⟩
  exact sound.user_eq_ok.2 ⟨key ▸ stored, own⟩

/-- A token with the id of a number verifies, if its user is there. -/
theorem Gate.knows_own_token {g : Gate} (direct : g.lookups = Backend.direct.lookups)
    (nonce : UInt64) {s : Store} (sound : s.Sound) {login : UserId} {i : ObjectId}
    (known : s.logins.get? login = some i) :
    g.authenticateSession (some ⟨.mint g.salt nonce, login⟩) s = .ok () := by
  obtain ⟨u, account⟩ := sound.account_of_login known
  have found : (g.lookups s).account login = .ok u := direct ▸ account
  rw [authenticateSession, if_pos (SessionId.verifies_mint _ _), found]
  rfl

theorem Gate.authenticateCookie_cases (g : Gate) (now : Moment) (header : Option String)
    (s : GateState) :
    g.cookie.extract header = none ∧ g.authenticateCookie now header s = (none, s) ∨
      ∃ id, g.cookie.extract header = some id ∧
        g.authenticateCookie now header s =
          ((s.sessions.lookup now.elapsed id).1.map fun c => ⟨id, c.userId⟩,
            ⟨s.store, (s.sessions.lookup now.elapsed id).2⟩) := by
  unfold authenticateCookie
  rcases g.cookie.extract header with _ | id
  · exact Or.inl ⟨rfl, rfl⟩
  · exact Or.inr ⟨id, rfl, rfl⟩

theorem GateStep.run (hs : GateStep g policy w cache e v cache') (sound : w.store.Sound) :
    ∃ log, Run w log v := by
  cases hs with
  | @login c now recorded nonce answer s tried =>
    have entry := g.entry_recordingAt policy now recorded nonce c (s := ⟨w.store, cache⟩) sound
    rw [tried] at entry
    exact entry.run w.drawn
  | @cookie now header answer s checked =>
    rcases g.authenticateCookie_cases now header ⟨w.store, cache⟩ with ⟨_, same⟩ | ⟨_, _, same⟩
    · rw [same] at checked
      cases checked
      exact ⟨[], .stay⟩
    · rw [same] at checked
      cases checked
      exact ⟨[], .stay⟩
  | deed step => exact ⟨_, .more .stay step⟩
  | logout => exact ⟨[], .stay⟩
  | clear => exact ⟨[], .stay⟩
  | evict => exact ⟨[], .stay⟩
  | session => exact ⟨[], .stay⟩

/-- A token that is given has the id of its number, and is that of a user. -/
theorem GateStep.issued (hs : GateStep g policy w cache e v cache') (sound : w.store.Sound)
    {nonce : UInt64} {t : SessionToken} (given : e.issued? = some (nonce, t)) :
    t.sessionId = .mint g.salt nonce ∧ ∃ i, v.store.logins.get? t.userId = some i := by
  cases hs with
  | @login c now recorded nonce' answer s tried =>
    have entry := g.entry_recordingAt policy now recorded nonce' c (s := ⟨w.store, cache⟩) sound
    rw [tried] at entry
    cases entry with
    | @entered u _ stored own =>
      cases given
      exact ⟨rfl, u.info.id, sound.connected.login_iff.2 ⟨u, stored, own⟩⟩
    | _ => cases given
  | _ => cases given

/-- A session in the cache was there before, or is that of a token that is given now. -/
theorem GateStep.get?_cache (hs : GateStep g policy w cache e v cache') (sound : w.store.Sound)
    {id : SessionId} {x : CachedSession} (found : cache'.get? id = some x) :
    (∃ y, cache.get? id = some y ∧ y.credentials = x.credentials) ∨
      ∃ nonce t, e.issued? = some (nonce, t) ∧ t.sessionId = id ∧
        t.userId = x.credentials.userId := by
  cases hs with
  | @login c now recorded nonce answer s tried =>
    have entry := g.entry_recordingAt policy now recorded nonce c (s := ⟨w.store, cache⟩) sound
    rw [tried] at entry
    cases entry with
    | @entered u =>
      rw [SessionCache.get?_insert] at found
      split at found
      · next same =>
        cases found
        exact Or.inr ⟨nonce, _, rfl, same.symm, rfl⟩
      · exact Or.inl ⟨x, found, rfl⟩
    | _ => exact Or.inl ⟨x, found, rfl⟩
  | @logout t =>
    rw [Gate.logout, SessionCache.get?_remove] at found
    split at found
    · cases found
    · exact Or.inl ⟨x, found, rfl⟩
  | clear => cases found
  | evict =>
    rw [SessionCache.get?_evict, Option.filter_eq_some_iff] at found
    exact Or.inl ⟨x, found.1, rfl⟩
  | @cookie now header answer s checked =>
    rcases g.authenticateCookie_cases now header ⟨w.store, cache⟩ with ⟨_, same⟩ | ⟨id', _, same⟩
    · rw [same] at checked
      cases checked
      exact Or.inl ⟨x, found, rfl⟩
    · rw [same] at checked
      cases checked
      exact Or.inl (SessionCache.get?_of_lookup found)
  | session => exact Or.inl ⟨x, found, rfl⟩
  | deed => exact Or.inl ⟨x, found, rfl⟩

theorem GateStep.get?_ended (hs : GateStep g policy w cache e v cache') {id : SessionId}
    (ends : e.Ends id) : cache'.get? id = none := by
  cases hs with
  | logout =>
    rw [Gate.logout, SessionCache.get?_remove]
    exact if_pos ends.symm
  | clear => rfl
  | _ => cases ends

end OneStep

/-! ## 3. Whole runs -/

/-- What is known of a gate after some events: its store was reached by changes; tokens that
    were given have the ids of their numbers, and their users are there; a session in the cache
    is that of such a token; and a session that was ended is not in the cache, unless its id was
    given again. -/
structure GateKept (g : Gate) (events : List GateEvent) (w : Stage) (cache : SessionCache) :
    Prop where
  reached : ∃ log, Run .start log w
  given : ∀ nonce t, (nonce, t) ∈ issued events →
    t.sessionId = .mint g.salt nonce ∧ ∃ i, w.store.logins.get? t.userId = some i
  cached : ∀ id x, cache.get? id = some x →
    ∃ nonce t, (nonce, t) ∈ issued events ∧ t.sessionId = id ∧ t.userId = x.credentials.userId
  ended : ∀ before e after id, events = before ++ e :: after → e.Ends id →
    (∀ nonce t, (nonce, t) ∈ issued after → t.sessionId ≠ id) → cache.get? id = none

section Runs

variable {g : Gate} {policy : LoginPolicy} {limit : Option Duration} {events : List GateEvent}
  {w v : Stage} {cache cache' : SessionCache} {e : GateEvent}

theorem mem_issued_concat {p : UInt64 × SessionToken} :
    p ∈ issued (events ++ [e]) ↔ p ∈ issued events ∨ e.issued? = some p := by
  simp [issued]

theorem GateKept.step (h : GateKept g events w cache) (hs : GateStep g policy w cache e v cache') :
    GateKept g (events ++ [e]) v cache' := by
  obtain ⟨log, begun⟩ := h.reached
  obtain ⟨more, run⟩ := hs.run begun.sound
  refine ⟨⟨log ++ more, begun.trans run⟩, ?_, ?_, ?_⟩
  · intro nonce t ht
    rcases mem_issued_concat.1 ht with before | now
    · obtain ⟨own, i, known⟩ := h.given nonce t before
      exact ⟨own, i, run.keeps (P := fun x => x.store.logins.get? t.userId = some i)
        (fun there step => step.login_lasts there) known⟩
    · exact hs.issued begun.sound now
  · intro id x found
    rcases hs.get?_cache begun.sound found with ⟨y, there, same⟩ | ⟨nonce, t, now, own, user⟩
    · obtain ⟨nonce, t, before, own, user⟩ := h.cached id y there
      exact ⟨nonce, t, mem_issued_concat.2 (Or.inl before), own, user.trans (congrArg _ same)⟩
    · exact ⟨nonce, t, mem_issued_concat.2 (Or.inr now), own, user⟩
  · intro before e' after id split ends new
    rcases List.eq_nil_or_concat after with rfl | ⟨after, last, rfl⟩
    · obtain ⟨-, same⟩ := List.append_inj' split rfl
      cases same
      exact hs.get?_ended ends
    · rw [List.concat_eq_append] at split new
      rw [← List.cons_append, ← List.append_assoc] at split
      obtain ⟨rfl, same⟩ := List.append_inj' split rfl
      cases same
      have absent : cache.get? id = none := h.ended before e' after id rfl ends
        fun nonce t ht => new nonce t (mem_issued_concat.2 (Or.inl ht))
      -- so it is there now only if its id is given now
      rcases found : cache'.get? id with _ | x
      · rfl
      · rcases hs.get?_cache begun.sound found with ⟨y, there, _⟩ | ⟨nonce, t, now, own, _⟩
        · rw [absent] at there
          cases there
        · exact absurd own (new nonce t (mem_issued_concat.2 (Or.inr now)))

/-- All of it is known after every run. -/
theorem GateRun.kept (h : GateRun g policy limit events w cache) : GateKept g events w cache := by
  induction h with
  | start =>
    refine ⟨⟨[], .stay⟩, ?_, ?_, ?_⟩
    · intro nonce t given
      cases given
    · intro id x found
      cases found
    · intro before e after id split
      simp at split
  | more _ last ih => exact ih.step last

theorem GateKept.token_unique (h : GateKept g events w cache)
    (fresh : ((issued events).map Prod.fst).Nodup) {m n : UInt64} {t u : SessionToken}
    (hu : (m, u) ∈ issued events) (ht : (n, t) ∈ issued events)
    (same : u.sessionId = t.sessionId) : (m, u) = (n, t) := by
  have number : m = n := by
    rw [(h.given n t ht).1, (h.given m u hu).1] at same
    exact SessionId.mint_injective same
  exact List.inj_on_of_nodup_map fresh hu ht number

theorem GateRun.deeds (h : GateRun g policy limit events w cache) {log : List Deed}
    (more : Run w log v) : GateRun g policy limit (events ++ log.map .deed) v cache := by
  induction more with
  | stay => simpa using h
  | more _ last ih => simpa using ih.more (.deed last)

end Runs

/-- After every run at a gate in which no number of a session is used twice, this holds of every
    token that a login of the run gave.  The token verifies and its user is there, whatever
    became of the session.  If the session was ended since, by a logout with the id or because
    all sessions were cleared, no request that carries the id as its cookie is known by it.  And
    at any point of the run, if a request is known by a cookie with the id, then as this token. -/
theorem session_checks_diverge {g : Gate} (direct : g.lookups = Backend.direct.lookups)
    {policy : LoginPolicy} {limit : Option Duration} {events : List GateEvent} {w : Stage}
    {cache : SessionCache} (run : GateRun g policy limit events w cache)
    (fresh : ((issued events).map Prod.fst).Nodup) {before after : List GateEvent}
    {c : Credentials} {start : Moment} {recorded : Timestamp} {nonce : UInt64} {t : SessionToken}
    (split : events = before ++ .login c start recorded nonce (.ok t) :: after) :
    g.authenticateSession (some t) w.store = .ok () ∧
    ((∃ e ∈ after, e.Ends t.sessionId) → ∀ now header,
      g.cookie.extract header = some t.sessionId →
        (g.authenticateCookie now header ⟨w.store, cache⟩).1 = none) ∧
    ∀ earlier later w' cache', events = earlier ++ later →
      GateRun g policy limit earlier w' cache' → ∀ now header t',
        (g.authenticateCookie now header ⟨w'.store, cache'⟩).1 = some t' →
          t'.sessionId = t.sessionId → t' = t := by
  have kept := run.kept
  obtain ⟨log, begun⟩ := kept.reached
  have row : issued events = issued before ++ (nonce, t) :: issued after := by
    rw [split, issued_append]
    rfl
  have member : (nonce, t) ∈ issued events := by simp [row]
  obtain ⟨own, i, known⟩ := kept.given nonce t member
  have once : (nonce, t) ∉ issued after := by
    intro again
    rw [row, List.map_append, List.map_cons] at fresh
    obtain ⟨-, tail, -⟩ := List.nodup_append.1 fresh
    exact (List.nodup_cons.1 tail).1 (List.mem_map.2 ⟨_, again, rfl⟩)
  refine ⟨?_, ?_, ?_⟩
  · obtain ⟨id, login⟩ := t
    obtain rfl : id = .mint g.salt nonce := own
    exact Gate.knows_own_token direct nonce begun.sound known
  · rintro ⟨e, he, ends⟩ now header carries
    obtain ⟨between, rest, rfl⟩ := List.append_of_mem he
    have absent : cache.get? t.sessionId = none := by
      refine kept.ended (before ++ .login c start recorded nonce (.ok t) :: between) e rest
        t.sessionId (by simp [split]) ends fun m u hu same => once ?_
      -- an id that is given again has the number of the token again
      obtain ⟨e', he', gives⟩ := List.mem_filterMap.1 hu
      have later : (m, u) ∈ issued (between ++ e :: rest) :=
        List.mem_filterMap.2 ⟨e', by simp [he'], gives⟩
      have given : (m, u) ∈ issued events := by simp [row, later]
      exact kept.token_unique fresh given member same ▸ later
    rcases g.authenticateCookie_cases now header ⟨w.store, cache⟩ with ⟨none, _⟩ | ⟨id, some, same⟩
    · rw [carries] at none
      cases none
    · rw [carries] at some
      cases some
      rw [same, SessionCache.lookup_of_none absent]
      rfl
  · intro earlier later w' cache' part run' now header t' answer same
    rcases g.authenticateCookie_cases now header ⟨w'.store, cache'⟩ with ⟨_, none⟩ | ⟨id, _, some⟩
    · rw [none] at answer
      cases answer
    · rw [some] at answer
      obtain ⟨c', found, rfl⟩ := Option.map_eq_some_iff.1 answer
      obtain ⟨since, stored, _⟩ := SessionCache.lookup_eq_some.1 found
      obtain ⟨m, u, given, own', user⟩ := run'.kept.cached id _ stored
      have given : (m, u) ∈ issued events := by
        rw [part, issued_append]
        exact List.mem_append_left _ given
      have this := kept.token_unique fresh given member (own'.trans same)
      obtain ⟨rfl, rfl⟩ := Prod.mk.inj this
      exact congrArg₂ SessionToken.mk own'.symm user.symm

/-- The sample's user logs in and out.  Its token verifies, and its cookie is not known. -/
theorem session_checks_diverge_sample :
    let login : UserId := ⟨"ann"⟩
    let t : SessionToken := ⟨.mint Gate.sample.salt 7, login⟩
    ∃ events w cache, GateRun Gate.sample ⟨none, .ofMillis 1⟩ none events w cache ∧
      Gate.sample.authenticateSession (some t) w.store = .ok () ∧
      (Gate.sample.authenticateCookie ⟨⟨9⟩, ⟨9⟩⟩
        (some (String.ofList ("SessionId".toList ++ '=' :: t.sessionId.value.toList)))
        ⟨w.store, cache⟩).1 = none := by
  intro login t
  let right : Credentials := ⟨login, "secret"⟩
  let policy : LoginPolicy := ⟨none, .ofMillis 1⟩
  let digest := Gate.sample.salt.hashPassword "secret"
  let changes := [Change.createRealm ⟨"realm"⟩ ⟨0⟩ "acme" none,
    Change.createUser ⟨"ann"⟩ ⟨1⟩ ⟨"realm"⟩ login "Ann" digest]
  let ann := User.new (.new ⟨"ann"⟩ ⟨1⟩ "Ann" ⟨"realm"⟩) login digest
  have made : Run .start _ (Stage.start.reach changes).2 := Stage.start.run_reach changes
  have stored : (Stage.start.reach changes).2.store.parties.get? ⟨"ann"⟩ = some (.user ann) := rfl
  have free : policy.blocking? ⟨5⟩ ann = none := rfl
  have entered : (Gate.sample.recordingAt policy ⟨6⟩).login ⟨⟨5⟩, ⟨5⟩⟩ 7 right
      ⟨(Stage.start.reach changes).2.store, .empty none⟩ = (.ok t, _) :=
    (Gate.sample.recordingAt policy ⟨6⟩).login_of_right made.sound rfl (by decide) stored rfl free
      (Salt.verifyPassword_iff.2 rfl)
  let events : List GateEvent := [] ++ (Stage.start.reach changes).1.map .deed ++
    [.login right ⟨⟨5⟩, ⟨5⟩⟩ ⟨6⟩ 7 (.ok t)] ++ [.logout t]
  have run : GateRun Gate.sample policy none events _ _ :=
    ((GateRun.start.deeds made).more (.login entered)).more .logout
  have fresh : ((issued events).map Prod.fst).Nodup := List.nodup_singleton (7 : UInt64)
  have split : events = [] ++ (Stage.start.reach changes).1.map .deed ++
      .login right ⟨⟨5⟩, ⟨5⟩⟩ ⟨6⟩ 7 (.ok t) :: [.logout t] := List.append_assoc ..
  obtain ⟨verifies, unknown, -⟩ := session_checks_diverge rfl run fresh split
  refine ⟨events, _, _, run, verifies, ?_⟩
  exact unknown ⟨.logout t, by simp, rfl⟩ _ _ (SessionCookie.extract_own (c := Gate.sample.cookie)
    (SessionCookie.plain_of_isCookieName (by decide)))

end AccessControl
