/-
  AccessControl/Proofs/Seed/Accounts.lean
  =======================================
  **Who has an account after a seed was carried out.**

  Each user of a seed gets an account, with its login, the digest of its password and no
  attempts on record, and nobody else gets one.  What the index knows is stored: a user
  under its login, a resource under its path.

  All of this is about users and resources only, whose names are never given twice: the
  index refuses a path that is in use, and the store a login.  So it holds of all seeds,
  also of those in which two groups share a path and for which `Sown` does not hold.  For
  this reason the steps are read here under the index that they were carried out with, and
  not under the last one.

  ## Main definitions

  * `UserSeed.Account`: the account that a seed asks for;
  * `Housed`: what is known while the work goes on.

  ## Main statements

  * `Run.attempts_eq_nil`: nothing is on record as long as nobody tries to log in;
  * `Housed.extend`: a step carries on what is known;
  * `Housed.account`, `Housed.declared`: the accounts are those of the seed;
  * `Housed.of_target`: what a check can be about.
-/
import AccessControl.Proofs.Login.Limiter
import AccessControl.Proofs.Seed.Access
import AccessControl.Proofs.Store.Membership
import AccessControl.Proofs.Store.Rosters

namespace AccessControl

/-! ## 1. Records without attempts -/

section Records

variable {w v : Stage} {d : Deed} {i : ObjectId} {login : UserId} {history : List LoginAttempt}

theorem Step.record_lasts (hs : Step w d v) (other : d.change.LeavesRecords)
    (here : v.store.parties.view Party.record? i = some (some (login, history))) :
    w.store.parties.view Party.record? i = some (some (login, history)) ∨ history = [] := by
  cases hs with
  | refused => exact Or.inl here
  | done performed _ =>
    rcases (Change.effect_of_perform performed).records_lasting other i with
      same | group | ⟨_, _, _, _, _, _, new⟩
    · exact Or.inl (same ▸ here)
    · rw [group] at here
      cases here
    · rw [new] at here
      cases here
      exact Or.inr rfl

/-- As long as nobody tries to log in, nothing is on record. -/
theorem Run.attempts_eq_nil {log : List Deed} (h : Run .start log v)
    (others : ∀ d ∈ log, d.change.LeavesRecords) {u : User}
    (stored : v.store.parties.get? i = some (.user u)) : u.attempts = [] := by
  have record : ∀ login history,
      v.store.parties.view Party.record? i = some (some (login, history)) → history = [] := by
    clear stored
    induction h with
    | stay =>
      intro login history here
      cases here
    | more _ last ih =>
      intro login history here
      rcases last.record_lasts (others _ (by simp)) here with before | empty
      · exact ih (fun d hd => others d (by simp [hd])) login history before
      · exact empty
  exact record u.userId u.attempts (Shelf.view_of_get? stored)

end Records

/-! ## 2. While the work goes on -/

/-- The user is as a seed describes it. -/
structure UserSeed.Account (s : UserSeed) (salt : Digest.Salt) (u : User) : Prop where
  login : u.userId = ⟨s.login⟩
  digest : u.passwordHash = salt.hashPassword s.password
  untried : u.attempts = []

/-- The steps were carried out and nothing else was, and what the index knows is stored. -/
structure Housed (e : Supply) (done : List SeedStep) (log : List Deed) (w : Sowing) : Prop where
  run : Run .start log ⟨w.store, e.drawn w.taken⟩
  asked : ∀ step ∈ done, ∃ x c, step.Asks e x c ∧ ⟨c, true⟩ ∈ log
  answered : ∀ d ∈ log, d.done = true ∧ ∃ step ∈ done, ∃ x, step.Asks e x d.change
  logins : ∀ login id, w.index.id? (.user login) = some id → w.store.logins.get? ⟨login⟩ = some id
  places : ∀ path id, w.index.id? (.resource path) = some id →
    ∃ r, w.store.resources.get? id = some r

theorem Housed.start (e : Supply) : Housed e [] [] ⟨.empty, .empty, 0⟩ where
  run := .stay
  asked _ h := nomatch h
  answered _ h := nomatch h
  logins _ _ h := nomatch h
  places _ _ h := nomatch h

theorem SeedStep.Asks.leavesRecords {e : Supply} {x : SeedIndex} {step : SeedStep} {c : Change}
    (h : step.Asks e x c) : c.LeavesRecords := by
  cases h <;> exact fun _ _ => nofun

namespace Housed

section Steps

variable {e : Supply} {done : List SeedStep} {log : List Deed} {w v : Sowing} {step : SeedStep}
  {c : Change}

theorem logins_of_step (h : Housed e done log w) (hs : step.Done e w v c)
    (fresh : Function.Injective e.ids) {login : String} {id : ObjectId}
    (known : v.index.id? (.user login) = some id) : v.store.logins.get? ⟨login⟩ = some id := by
  have more := hs.toStep fresh
  rcases hs.id?_eq_some known with before | ⟨name, _⟩
  · exact more.login_lasts (h.logins login id before)
  · obtain ⟨asks, _, _, _, _, _⟩ := hs
    cases asks with
    | user home named =>
      cases name
      rw [known] at named
      cases named
      exact more.login_of_createUser
    | _ => cases name

theorem places_of_step (h : Housed e done log w) (hs : step.Done e w v c)
    (fresh : Function.Injective e.ids) {path : String} {id : ObjectId}
    (known : v.index.id? (.resource path) = some id) :
    ∃ r, v.store.resources.get? id = some r := by
  have more := hs.toStep fresh
  have tidy := h.run.tidy .start
  -- the id of what is made is the one that the index knows
  have made : ∀ {i parentId}, c.Makes i parentId → v.index.id? (.resource path) = some i →
      ∃ r, v.store.resources.get? id = some r := by
    intro i parentId makes named
    rw [known] at named
    cases named
    obtain ⟨r, stored, _⟩ := Shelf.view_eq_some.1 (more.parent_of_makes tidy makes)
    exact ⟨r, stored⟩
  rcases hs.id?_eq_some known with before | ⟨name, _⟩
  · obtain ⟨r, stored⟩ := h.places path id before
    obtain ⟨r', stays, _⟩ := more.resource_lasts tidy stored
    exact ⟨r', stays⟩
  · obtain ⟨asks, _, _, _, _, _⟩ := hs
    cases asks with
    | realm named =>
      cases name
      exact made (.realm ..) named
    | repository _ named =>
      cases name
      exact made (.repository ..) named
    | child _ named =>
      cases name
      exact made (.resource ..) named
    | _ => cases name

theorem extend (h : Housed e done log w) (hs : step.Done e w v c)
    (fresh : Function.Injective e.ids) :
    Housed e (done ++ [step]) (log ++ [⟨c, true⟩]) v := by
  constructor
  · exact .more h.run (hs.toStep fresh)
  · intro s hmem
    rcases List.mem_append.1 hmem with before | now
    · obtain ⟨x, c', asks, hc'⟩ := h.asked s before
      exact ⟨x, c', asks, List.mem_append_left _ hc'⟩
    · cases List.mem_singleton.1 now
      exact ⟨v.index, c, hs.asks, by simp⟩
  · intro d hd
    rcases List.mem_append.1 hd with before | now
    · obtain ⟨carried, s, hmem, asks⟩ := h.answered d before
      exact ⟨carried, s, List.mem_append_left _ hmem, asks⟩
    · cases List.mem_singleton.1 now
      exact ⟨rfl, step, by simp, v.index, hs.asks⟩
  · intro login id known
    exact h.logins_of_step hs fresh known
  · intro path id known
    exact h.places_of_step hs fresh known

end Steps

theorem of_sow {e : Supply} (fresh : Function.Injective e.ids) {seed : Seed} {w : Sowing}
    (hw : seed.sow e .empty = (w, none)) : ∃ log, Housed e seed.steps log w := by
  have all : ∃ log, Housed e ([] ++ seed.steps) log w := by
    refine Sowing.run_induction (P := fun done w => ∃ log, Housed e done log w) ?_
      ⟨[], .start e⟩ hw
    rintro done step w v c ⟨log, h⟩ hs
    exact ⟨_, h.extend hs fresh⟩
  exact all

/-! ## 3. Accounts -/

section Accounts

variable {e : Supply} {done : List SeedStep} {log : List Deed} {w : Sowing}

theorem untried (h : Housed e done log w) {i : ObjectId} {u : User}
    (stored : w.store.parties.get? i = some (.user u)) : u.attempts = [] := by
  apply h.run.attempts_eq_nil _ stored
  intro d hd
  obtain ⟨_, _, _, _, asks⟩ := h.answered d hd
  exact asks.leavesRecords

theorem user_of_newcomer (h : Housed e done log w) {p : Party} (came : p ∈ newcomers log)
    {login : UserId} {digest : String} (account : p.lasting.account = some (login, digest)) :
    ∃ home u, SeedStep.user home u ∈ done ∧ login = ⟨u.login⟩ ∧
      digest = e.salt.hashPassword u.password := by
  obtain ⟨⟨c, carried⟩, hd, comes⟩ := List.mem_filterMap.1 came
  obtain ⟨same, step, hstep, x, asks⟩ := h.answered _ hd
  obtain rfl : carried = true := same
  have comes : c.newParty? = some p := comes
  cases asks with
  | @user home u =>
    cases comes
    cases account
    exact ⟨home, u, hstep, rfl, rfl⟩
  | group =>
    cases comes
    cases account
  | _ => cases comes

/-- Every account is that of a user of the seed. -/
theorem declared (h : Housed e done log w) {i : ObjectId} {u : User}
    (stored : w.store.parties.get? i = some (.user u)) :
    ∃ home s, SeedStep.user home s ∈ done ∧ s.Account e.salt u := by
  obtain ⟨p, came, _, same⟩ := h.run.enrols.origin stored
  have account : p.lasting.account = some (u.userId, u.passwordHash) := by
    rw [same]
    rfl
  obtain ⟨home, s, hstep, login, digest⟩ := h.user_of_newcomer came account
  exact ⟨home, s, hstep, login, digest, h.untried stored⟩

/-- Every user of the seed has an account. -/
theorem account (h : Housed e done log w) {home : String} {s : UserSeed}
    (hstep : SeedStep.user home s ∈ done) :
    ∃ u, w.store.parties.get? u.info.id = some (.user u) ∧ s.Account e.salt u := by
  obtain ⟨x, c, asks, hc⟩ := h.asked _ hstep
  cases asks with
  | @user _ _ id realmId =>
    have came : Party.user (.new (.new id e.now (s.name.getD s.login) realmId) ⟨s.login⟩
        (e.salt.hashPassword s.password)) ∈ newcomers log :=
      List.mem_filterMap.2 ⟨_, hc, rfl⟩
    obtain ⟨p, stored, same⟩ := Shelf.view_eq_some.1 (h.run.enrols.present _ came)
    have account := congrArg Party.Lasting.account same
    cases p with
    | group g => cases account
    | user u =>
      have own : u.info.id = id := congrArg Party.Lasting.id same
      have stored : w.store.parties.get? u.info.id = some (.user u) := own ▸ stored
      obtain ⟨login, digest⟩ := Prod.mk.inj (Option.some.inj account)
      exact ⟨u, stored, login, digest, h.untried stored⟩

/-- A check is about a user, by its login, or about a resource. -/
theorem of_target (h : Housed e done log w) {raw : String} {id : ObjectId}
    (target : w.index.target raw = .ok id) :
    (∃ u, w.store.parties.get? id = some (.user u)) ∨
      ∃ r, w.store.resources.get? id = some r := by
  unfold SeedIndex.target at target
  split at target
  · have known := h.logins _ id (find_eq_ok.1 target)
    obtain ⟨u, stored, _⟩ := h.run.sound.connected.login_iff.1 known
    exact Or.inl ⟨u, stored⟩
  · exact Or.inr (h.places raw id (find_eq_ok.1 target))

end Accounts

end Housed

theorem Seed.mem_users {s : Seed} {home : String} {u : UserSeed}
    (h : SeedStep.user home u ∈ s.steps) : u ∈ s.users := by
  have listed : ∃ r ∈ s.realms, u ∈ r.users ∧ r.name = home := by
    simpa [steps, RealmSeed.steps, GroupSeed.steps, RepositorySeed.steps] using h
  obtain ⟨r, hr, hu, _⟩ := listed
  exact List.mem_flatMap.2 ⟨r, hr, hu⟩

end AccessControl
