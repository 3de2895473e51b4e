/-
  AccessControl/Proofs/Seed/Acceptance.lean
  =========================================
  **Which seeds can be carried out.**

  A seed is checked while it is carried out, partly by the index and partly by the store, one
  step after another.  A step can be carried out exactly when the steps before it have made
  what it needs, and have not given the names that it gives (`Planted.performs_iff`).  So a
  seed is carried out in full exactly when this holds of all its steps, in their order.

  The order plays no part in the end.  What a step needs of the steps before it is declared in
  the seed, and whatever the seed declares where it belongs is made early enough: a realm before
  what it holds, the users of a realm before the groups, and the grants last.  A group has its
  members added right after it was made, so that another group with its path is not in the way.

  ## Main definitions

  * `SeedStep.Needs`, `SeedStep.New`: what a step needs of the steps before it;
  * `AtEach`: something holds of each step and the steps before it;
  * `Seed.nodes`, `Seed.Acceptable`: what a seed has to be like.

  ## Main statements

  * `Planted.performs_iff`: when a step can be carried out;
  * `Planted.completes_iff`: when a row of steps can be carried out;
  * `Seed.atEach_needs_iff`: what the steps of a seed need, in terms of the seed;
  * `Seed.sow_completes_iff`: when a seed is carried out in full.
-/
import AccessControl.Proofs.Seed.Planted
import AccessControl.Proofs.Store.Atomic

namespace AccessControl

/-! ## 1. What a step needs -/

namespace SeedStep

def path? (step : SeedStep) : Option String := step.node?.map SeedNode.path

def login? : SeedStep → Option String
  | .user _ u => some u.login
  | _ => none

theorem path?_eq_some {step : SeedStep} {path : String} :
    step.path? = some path ↔ step.name? = some (.resource path) := by
  rw [name?_eq_resource, path?, Option.map_eq_some_iff]

theorem login?_eq_some {step : SeedStep} {login : String} :
    step.login? = some login ↔ step.name? = some (.user login) := by
  cases step <;> simp [login?, name?]

end SeedStep

def Declared (done : List SeedStep) (path : String) (type : ResourceType) : Prop :=
  ∃ step ∈ done, ∃ n, step.node? = some n ∧ n.path = path ∧ n.kind.type = type

/-- What a step needs of the steps before it. -/
def SeedStep.Needs (done : List SeedStep) : SeedStep → Prop
  | .realm .. => True
  | .user home _ | .group home .. | .repository home .. => Declared done home .realm
  | .member path login =>
    ∃ home u, groupHome? done path = some home ∧ SeedStep.user home u ∈ done ∧ u.login = login
  | .child outer name kind =>
    (kind.type = .dockerImage → ImageName.check name = .ok ()) ∧
      ∃ type, Declared done outer type ∧ kind.type.parentType? = some type
  | .grant g =>
    (∃ type, Declared done g.resource type) ∧
      ∃ a, g.holder? = some a ∧ ∃ step ∈ done, step.name? = some a

/-- The steps before a step have not given its path or its login. -/
def SeedStep.New (done : List SeedStep) (step : SeedStep) : Prop :=
  (∀ path, step.path? = some path → path ∉ done.filterMap SeedStep.path?) ∧
    ∀ login, step.login? = some login → login ∉ done.filterMap SeedStep.login?

theorem GrantSeed.holder?_ne {g : GrantSeed} {a : SeedName} (holder : g.holder? = some a)
    (path : String) : a ≠ .resource path := by
  rintro rfl
  unfold holder? at holder
  split at holder <;> cases holder

theorem group_of_groupHome? {done : List SeedStep} {path home : String}
    (last : groupHome? done path = some home) :
    ∃ step ∈ done, step.name? = some (.group path) := by
  -- the realm that is known was known from the start, or comes from a group of the row
  have origin : ∀ known, done.foldl (SeedStep.rehome path) known = some home →
      known = some home ∨ ∃ step ∈ done, step.name? = some (.group path) := by
    clear last
    induction done with
    | nil => exact fun known last => Or.inl last
    | cons step rest ih =>
      intro known last
      by_cases name : step.name? = some (.group path)
      · exact Or.inr ⟨step, List.mem_cons_self .., name⟩
      · rw [List.foldl_cons, SeedStep.rehome_of_ne name] at last
        rcases ih known last with before | ⟨later, hlater, name⟩
        · exact Or.inl before
        · exact Or.inr ⟨later, List.mem_cons_of_mem _ hlater, name⟩
  exact (origin none last).resolve_left nofun

theorem seedPath_ne (outer inner : String) : seedPath outer inner ≠ outer := by
  intro same
  have lengths := congrArg String.length same
  simp only [seedPath, String.length_append] at lengths
  have slash : "/".length = 1 := rfl
  omega

/-! ## 2. One step -/

namespace Planted

variable {e : Supply} {done : List SeedStep} {log : List Deed} {w v : Sowing} {step : SeedStep}

theorem mem_paths (h : Planted e done log w) {path : String} :
    path ∈ done.filterMap SeedStep.path? ↔ ∃ id, w.index.id? (.resource path) = some id := by
  rw [h.named, List.mem_filterMap]
  simp only [SeedStep.path?_eq_some]

theorem mem_logins (h : Planted e done log w) {login : String} :
    login ∈ done.filterMap SeedStep.login? ↔ ∃ id, w.index.id? (.user login) = some id := by
  rw [h.named, List.mem_filterMap]
  simp only [SeedStep.login?_eq_some]

theorem declared_iff (h : Planted e done log w) {path : String} {type : ResourceType} :
    Declared done path type ↔
      ∃ i r, w.index.id? (.resource path) = some i ∧ w.store.resources.get? i = some r ∧
        r.type = type := by
  constructor
  · rintro ⟨step, hstep, n, hn, rfl, rfl⟩
    obtain ⟨r, stored, made⟩ := h.node hstep hn
    exact ⟨r.id, r, made.named, stored, made.type⟩
  · rintro ⟨i, r, known, stored, rfl⟩
    obtain ⟨step, hstep, n, r', hn, path, stored', made⟩ := h.node_of_known known
    rw [stored] at stored'
    cases stored'
    exact ⟨step, hstep, n, hn, path, made.type.symm⟩

theorem path_of_realm (h : Planted e done log w) {i : ObjectId} {r : Resource}
    (stored : w.store.resources.get? i = some r) (isRealm : r.type = .realm) :
    r.name ∈ done.filterMap SeedStep.path? := by
  obtain ⟨step, hstep, n, hn, made⟩ := h.node_of_stored stored
  have root := (h.housed.run.sound.connected.placed i r stored).realm_iff.1 isRealm
  have above := made.above
  rw [root] at above
  refine List.mem_filterMap.2 ⟨step, hstep, ?_⟩
  rw [SeedStep.path?, hn, made.name]
  cases step with
  | realm name description =>
    cases hn
    rfl
  | repository home name description =>
    cases hn
    cases above
  | child outer name kind =>
    cases hn
    cases above
  | _ => cases hn

theorem login_free (h : Planted e done log w) {login : String}
    (new : login ∉ done.filterMap SeedStep.login?) (i : ObjectId) (u : User)
    (stored : w.store.parties.get? i = some (.user u)) : u.userId ≠ ⟨login⟩ := by
  intro same
  obtain ⟨home, s, hstep, account⟩ := h.housed.declared stored
  obtain rfl : s.login = login := congrArg UserId.value (account.login.symm.trans same)
  exact new (List.mem_filterMap.2 ⟨_, hstep, rfl⟩)

theorem outer_known {c : Change} (hs : step.Done e w v c) {path : String} {i : ObjectId}
    (known : v.index.id? (.resource path) = some i) (other : step.name? ≠ some (.resource path)) :
    w.index.id? (.resource path) = some i := by
  rcases hs.id?_eq_some known with before | ⟨name, _⟩
  · exact before
  · exact absurd name other

theorem new_of_done (h : Planted e done log w) {c : Change} (hs : step.Done e w v c)
    (admitted : c.Admitted w.store) : step.New done := by
  refine ⟨fun path hpath given => ?_, fun login hlogin given => ?_⟩
  · obtain ⟨id, known⟩ := h.mem_paths.1 given
    rw [(hs.names _ (SeedStep.path?_eq_some.1 hpath)).2.new path rfl] at known
    cases known
  · obtain ⟨id, known⟩ := h.mem_logins.1 given
    obtain ⟨home, s, u, _, rfl, stored, made⟩ := h.user_of_known known
    obtain ⟨_, s', rfl, same⟩ := SeedStep.name?_eq_user.1 (SeedStep.login?_eq_some.1 hlogin)
    obtain ⟨asks, _, _, _, _, _⟩ := hs
    cases asks
    exact admitted.1 _ u stored (made.account.login.trans (congrArg UserId.mk same.symm))

theorem needs_of_done (h : Planted e done log w) {c : Change} (hs : step.Done e w v c)
    (admitted : c.Admitted w.store) : step.Needs done := by
  have asks := hs.asks
  cases asks with
  | realm => trivial
  | user home =>
    obtain ⟨r, stored, isRealm⟩ := admitted.2
    exact h.declared_iff.2 ⟨_, r, outer_known hs home nofun, stored, isRealm⟩
  | group home =>
    obtain ⟨r, stored, isRealm⟩ := admitted
    exact h.declared_iff.2 ⟨_, r, outer_known hs home nofun, stored, isRealm⟩
  | @repository realm name description _ _ home =>
    obtain ⟨r, stored, isRealm⟩ := admitted
    have other : SeedStep.name? (.repository realm name description) ≠ some (.resource realm) :=
      fun same => seedPath_ne realm name (SeedName.resource.inj (Option.some.inj same))
    exact h.declared_iff.2 ⟨_, r, outer_known hs home other, stored, isRealm⟩
  | @child outer name kind _ _ above =>
    obtain ⟨image, r, stored, fits⟩ := admitted
    have other : SeedStep.name? (.child outer name kind) ≠ some (.resource outer) :=
      fun same => seedPath_ne outer name (SeedName.resource.inj (Option.some.inj same))
    exact ⟨image, r.type, h.declared_iff.2 ⟨_, r, outer_known hs above other, stored, rfl⟩, fits⟩
  | @member path login _ _ hu hg =>
    -- nothing is named by this step
    rw [hs.unnamed rfl] at hu hg
    obtain ⟨u, g, stored, stored', same⟩ := admitted
    obtain ⟨home, s, u', hstep, rfl, hu', made⟩ := h.user_of_known hu
    obtain ⟨home', g', last, hg', realm⟩ := h.homes path _ hg
    rw [stored] at hu'
    rw [stored'] at hg'
    cases hu'
    cases hg'
    have homes := h.apart _ _ _ made.home (same ▸ realm)
    cases homes
    exact ⟨home, s, last, hstep, rfl⟩
  | @grant g a _ _ _ hr names ha =>
    rw [hs.unnamed rfl] at hr ha
    obtain ⟨⟨r, stored⟩, _⟩ := admitted
    refine ⟨⟨r.type, h.declared_iff.2 ⟨_, r, hr, stored, rfl⟩⟩, a, names, ?_⟩
    exact (h.named a).1 ⟨_, ha⟩

theorem performs_of_effect {store : Store} {taken : Nat} {named : Except SeedFault SeedIndex}
    {index : SeedIndex} (h : step.effect e w = .ok (store, taken, named))
    (known : named = .ok index) : ∃ v, step.perform e w = (v, none) := by
  subst known
  exact ⟨⟨store, index, taken⟩, by rw [SeedStep.perform, h]⟩

theorem performs_of_needs (h : Planted e done log w) (needs : step.Needs done)
    (new : step.New done) : ∃ v, step.perform e w = (v, none) := by
  have connected := h.housed.run.sound.connected
  have named {path : String} (hpath : step.path? = some path) (id : ObjectId) :
      ∃ y, w.index.addResource path id = .ok y := by
    have unused : w.index.resources.get? path = none := by
      rcases known : w.index.resources.get? path with _ | id
      · rfl
      · exact absurd (h.mem_paths.2 ⟨id, known⟩) (new.1 path hpath)
    exact ⟨_, if_neg (by simp [unused])⟩
  -- what the index knows and the store admits is carried out
  have carried {α : Type} {x : Except Refusal (α × Store)} {t : Store}
      (performed : x.map Prod.snd = .ok t) : ∃ made, x = .ok (made, t) := by
    obtain ⟨⟨made, t⟩, hx, rfl⟩ := map_eq_ok.1 performed
    exact ⟨made, hx⟩
  cases step with
  | realm name description =>
    obtain ⟨t, performed⟩ := Change.performs_of_admitted
      (c := .createRealm (e.ids w.taken) e.now name description) connected
      (fun i r stored isRealm same => new.1 name rfl (same ▸ h.path_of_realm stored isRealm))
    obtain ⟨r, made⟩ := carried performed
    obtain ⟨y, hy⟩ := named rfl r.id
    exact performs_of_effect (SeedStep.stored_eq_ok.2 ⟨r, t, made, rfl⟩) hy
  | user home u =>
    obtain ⟨i, r, known, stored, isRealm⟩ := h.declared_iff.1 needs
    obtain ⟨t, performed⟩ := Change.performs_of_admitted
      (c := .createUser (e.ids w.taken) e.now i ⟨u.login⟩ (u.name.getD u.login)
        (e.salt.hashPassword u.password)) connected
      ⟨h.login_free (new.2 u.login rfl), r, stored, isRealm⟩
    obtain ⟨made, created⟩ := carried performed
    exact performs_of_effect (bind_eq_ok.2 ⟨i, find_eq_ok.2 known,
      SeedStep.stored_eq_ok.2 ⟨made, t, created, rfl⟩⟩) rfl
  | group home name description =>
    obtain ⟨i, r, known, stored, isRealm⟩ := h.declared_iff.1 needs
    obtain ⟨t, performed⟩ := Change.performs_of_admitted
      (c := .createGroup (e.ids w.taken) e.now i name description) connected ⟨r, stored, isRealm⟩
    obtain ⟨made, created⟩ := carried performed
    exact performs_of_effect (bind_eq_ok.2 ⟨i, find_eq_ok.2 known,
      SeedStep.stored_eq_ok.2 ⟨made, t, created, rfl⟩⟩) rfl
  | member path login =>
    obtain ⟨home, s, last, hstep, rfl⟩ := needs
    obtain ⟨u, stored, made⟩ := h.user hstep
    obtain ⟨k, known⟩ := (h.named (.group path)).2 (group_of_groupHome? last)
    obtain ⟨home', g, last', stored', realm⟩ := h.homes path k known
    rw [last] at last'
    cases last'
    have same : u.info.realmId = g.info.realmId :=
      Option.some.inj (made.home.symm.trans realm)
    obtain ⟨t, performed⟩ := Change.performs_of_admitted (c := .addUserToGroup u.info.id k)
      connected ⟨u, g, stored, stored', same⟩
    exact performs_of_effect (bind_eq_ok.2 ⟨u.info.id, find_eq_ok.2 made.named, bind_eq_ok.2
      ⟨k, find_eq_ok.2 known, bind_eq_ok.2 ⟨t, mapError_eq_ok.2 performed, rfl⟩⟩⟩) rfl
  | repository home name description =>
    obtain ⟨i, r, known, stored, isRealm⟩ := h.declared_iff.1 needs
    obtain ⟨t, performed⟩ := Change.performs_of_admitted
      (c := .createRepository (e.ids w.taken) e.now i name description) connected
      ⟨r, stored, isRealm⟩
    obtain ⟨made, created⟩ := carried performed
    obtain ⟨y, hy⟩ := named rfl made.id
    exact performs_of_effect (bind_eq_ok.2 ⟨i, find_eq_ok.2 known,
      SeedStep.stored_eq_ok.2 ⟨made, t, created, rfl⟩⟩) hy
  | child outer name kind =>
    obtain ⟨image, type, declared, fits⟩ := needs
    obtain ⟨i, r, known, stored, rfl⟩ := h.declared_iff.1 declared
    obtain ⟨t, performed⟩ := Change.performs_of_admitted
      (c := .createResource (e.ids w.taken) e.now i name none kind) connected
      ⟨image, r, stored, fits⟩
    obtain ⟨made, created⟩ := carried performed
    obtain ⟨y, hy⟩ := named rfl made.id
    exact performs_of_effect (bind_eq_ok.2 ⟨i, find_eq_ok.2 known,
      SeedStep.stored_eq_ok.2 ⟨made, t, created, rfl⟩⟩) hy
  | grant g =>
    obtain ⟨⟨type, declared⟩, a, holder, given⟩ := needs
    obtain ⟨i, r, known, stored, rfl⟩ := h.declared_iff.1 declared
    obtain ⟨k, knownParty⟩ := (h.named a).2 given
    obtain ⟨p, storedParty⟩ := h.party_of_known knownParty (GrantSeed.holder?_ne holder)
    obtain ⟨t, performed⟩ := Change.performs_of_admitted
      (c := .addAccess (e.ids w.taken) i k (Mask.of g.permissions)) connected
      ⟨⟨r, stored⟩, p, storedParty⟩
    obtain ⟨made, added⟩ := carried performed
    have found := party_eq_ok.2 ⟨a, holder, knownParty⟩
    exact performs_of_effect (bind_eq_ok.2 ⟨i, find_eq_ok.2 known, bind_eq_ok.2
      ⟨k, found, SeedStep.stored_eq_ok.2 ⟨made, t, added, rfl⟩⟩⟩) rfl

/-- A step can be carried out exactly when it has what it needs, and gives no name anew. -/
theorem performs_iff (h : Planted e done log w) :
    (∃ v, step.perform e w = (v, none)) ↔ step.Needs done ∧ step.New done := by
  constructor
  · rintro ⟨v, performed⟩
    obtain ⟨c, hs⟩ := SeedStep.done_of_perform performed
    have admitted := (Change.effect_of_perform hs.performed).admitted h.housed.run.sound.connected
    exact ⟨h.needs_of_done hs admitted, h.new_of_done hs admitted⟩
  · rintro ⟨needs, new⟩
    exact h.performs_of_needs needs new

end Planted

/-! ## 3. Rows of steps -/

/-- Something holds of each step of a row and the steps before it. -/
def AtEach (P : List SeedStep → SeedStep → Prop) (done todo : List SeedStep) : Prop :=
  ∀ before step after, todo = before ++ step :: after → P (done ++ before) step

section Rows

variable {P Q : List SeedStep → SeedStep → Prop} {done todo : List SeedStep} {step : SeedStep}

theorem atEach_nil : AtEach P done [] := by
  intro before step after split
  simp at split

theorem atEach_cons :
    AtEach P done (step :: todo) ↔ P done step ∧ AtEach P (done ++ [step]) todo := by
  constructor
  · intro h
    refine ⟨by simpa using h [] step todo rfl, fun before next after split => ?_⟩
    simpa using h (step :: before) next after (congrArg _ split)
  · rintro ⟨first, later⟩ before next after split
    rcases List.cons_eq_append_iff.1 split with ⟨rfl, here⟩ | ⟨before, rfl, split⟩
    · cases here
      simpa using first
    · simpa using later before next after (List.cons.inj split).2

theorem atEach_append {first second : List SeedStep} :
    AtEach P done (first ++ second) ↔ AtEach P done first ∧ AtEach P (done ++ first) second := by
  induction first generalizing done with
  | nil => simp [atEach_nil]
  | cons step rest ih =>
    rw [List.cons_append, atEach_cons, atEach_cons, ih, List.append_assoc, List.singleton_append,
      and_assoc]

theorem atEach_and :
    AtEach (fun done step => P done step ∧ Q done step) done todo ↔
      AtEach P done todo ∧ AtEach Q done todo := by
  constructor
  · exact fun h => ⟨fun b s a split => (h b s a split).1, fun b s a split => (h b s a split).2⟩
  · exact fun h b s a split => ⟨h.1 b s a split, h.2 b s a split⟩

theorem AtEach.of_mem (h : AtEach P done todo) (hstep : step ∈ todo) :
    ∃ before, before ⊆ todo ∧ P (done ++ before) step := by
  obtain ⟨before, after, rfl⟩ := List.append_of_mem hstep
  exact ⟨before, List.subset_append_left .., h before step after rfl⟩

/-- What follows from the first steps alone holds of each later one. -/
theorem atEach_of_subset (h : ∀ step ∈ todo, ∀ before, done ⊆ before → P before step) :
    AtEach P done todo := by
  rintro before step after rfl
  exact h step (by simp) _ (List.subset_append_left ..)

theorem atEach_flatMap {α : Type} {f : α → List SeedStep} {parts : List α}
    (h : ∀ part ∈ parts, ∀ before, done ⊆ before → AtEach P before (f part)) :
    AtEach P done (parts.flatMap f) := by
  induction parts generalizing done with
  | nil => exact atEach_nil
  | cons part rest ih =>
    rw [List.flatMap_cons, atEach_append]
    refine ⟨h part (List.mem_cons_self ..) done fun _ here => here, ih ?_⟩
    intro later hlater before more
    exact h later (List.mem_cons_of_mem _ hlater) before
      fun _ here => more (List.mem_append_left _ here)

/-- No step gives anew what was given before exactly when nothing is given twice. -/
theorem atEach_new_iff {α : Type} [DecidableEq α] (gives? : SeedStep → Option α)
    (distinct : (done.filterMap gives?).Nodup) :
    AtEach (fun done step => ∀ a, gives? step = some a → a ∉ done.filterMap gives?) done todo ↔
      ((done ++ todo).filterMap gives?).Nodup := by
  induction todo generalizing done with
  | nil => simp [atEach_nil, distinct]
  | cons step rest ih =>
    rw [atEach_cons, show done ++ step :: rest = done ++ [step] ++ rest from List.append_cons ..]
    rcases gives : gives? step with _ | a
    · rw [ih (by simpa [gives] using distinct)]
      simp
    · by_cases given : a ∈ done.filterMap gives?
      · have twice : ¬((done ++ [step] ++ rest).filterMap gives?).Nodup := by
          intro once
          rw [List.filterMap_append, List.filterMap_append] at once
          have once := (List.nodup_append.1 once).1
          exact (List.nodup_append.1 once).2.2 a given a (by simp [gives]) rfl
        exact ⟨fun h => absurd given (h.1 a rfl), fun h => absurd h twice⟩
      · have more : ((done ++ [step]).filterMap gives?).Nodup := by
          rw [List.filterMap_append, List.nodup_append]
          refine ⟨distinct, by simp [gives], fun b hb b' hb' same => given ?_⟩
          rw [List.filterMap_cons, gives, List.filterMap_nil] at hb'
          exact List.mem_singleton.1 hb' ▸ same ▸ hb
        rw [ih more]
        refine ⟨And.right, fun h => ⟨fun b same => ?_, h⟩⟩
        cases same
        exact given

theorem atEach_new :
    AtEach SeedStep.New [] todo ↔
      (todo.filterMap SeedStep.path?).Nodup ∧ (todo.filterMap SeedStep.login?).Nodup :=
  atEach_and.trans (and_congr (atEach_new_iff SeedStep.path? List.nodup_nil)
    (atEach_new_iff SeedStep.login? List.nodup_nil))

end Rows

/-- A row of steps is carried out in full exactly when each step can be. -/
theorem Planted.completes_iff {e : Supply} (fresh : Function.Injective e.ids)
    {done steps : List SeedStep} {log : List Deed} {w : Sowing} (h : Planted e done log w) :
    (w.run e steps).2 = none ↔
      AtEach (fun done step => SeedStep.Needs done step ∧ SeedStep.New done step) done steps := by
  induction steps generalizing done log w with
  | nil => exact ⟨fun _ => atEach_nil, fun _ => rfl⟩
  | cons step rest ih =>
    rw [atEach_cons, ← h.performs_iff, Sowing.run]
    rcases performed : step.perform e w with ⟨v, _ | fault⟩
    · obtain ⟨c, hs⟩ := SeedStep.done_of_perform performed
      have later := ih (h.extend hs fresh)
      exact ⟨fun completes => ⟨⟨v, rfl⟩, later.1 completes⟩, fun all => later.2 all.2⟩
    · constructor
      · intro completes
        cases completes
      · rintro ⟨⟨v', same⟩, _⟩
        cases same

/-! ## 4. Seeds -/

/-- The resources of a repository, the repository itself first. -/
def RepositorySeed.nodes (home : String) (r : RepositorySeed) : List SeedNode :=
  ⟨seedPath home r.name, r.name, r.description, some home, .repository .empty⟩
    :: r.children.map fun c =>
      ⟨seedPath (seedPath home r.name) c.1, c.1, none, some (seedPath home r.name), c.2⟩

/-- The resources of a realm, the realm itself first. -/
def RealmSeed.nodes (r : RealmSeed) : List SeedNode :=
  ⟨r.name, r.name, r.description, none, .realm .empty⟩
    :: r.repositories.flatMap (RepositorySeed.nodes r.name)

theorem RepositorySeed.kind_of_child {r : RepositorySeed} {name : String} {kind : ResourceKind}
    (hc : (name, kind) ∈ r.children) :
    kind.type.parentType? = some .repository ∧
      (kind.type = .dockerImage → ∃ i ∈ r.images, i.name = name) := by
  simp only [children, List.mem_append, List.mem_map] at hc
  rcases hc with ((⟨d, _, same⟩ | ⟨i, hi, same⟩) | ⟨c, _, same⟩) | ⟨f, _, same⟩
  · cases same
    exact ⟨rfl, nofun⟩
  · cases same
    exact ⟨rfl, fun _ => ⟨i, hi, rfl⟩⟩
  · cases same
    exact ⟨rfl, nofun⟩
  · cases same
    exact ⟨rfl, nofun⟩

namespace Seed

/-- All resources that a seed declares. -/
def nodes (s : Seed) : List SeedNode := s.realms.flatMap RealmSeed.nodes

/-- What a seed has to be like.  Names are distinct, members are users of the realm that their
    group belongs to, images have valid names, and grants are on resources and to parties of
    the seed, to one each. -/
structure Acceptable (s : Seed) : Prop where
  paths : (s.nodes.map SeedNode.path).Nodup
  logins : (s.users.map UserSeed.login).Nodup
  members : ∀ r ∈ s.realms, ∀ g ∈ r.groups, ∀ login ∈ g.members, ∃ u ∈ r.users, u.login = login
  images : ∀ r ∈ s.realms, ∀ repo ∈ r.repositories, ∀ i ∈ repo.images,
    ImageName.check i.name = .ok ()
  grants : ∀ g ∈ s.grants, (∃ n ∈ s.nodes, n.path = g.resource) ∧
    ((∃ u ∈ s.users, g.user = some u.login ∧ g.group = none) ∨
      ∃ path ∈ s.groupPaths, g.user = none ∧ g.group = some path)

variable {s : Seed}

theorem nodes_of_group (home : String) (g : GroupSeed) :
    (g.steps home).filterMap SeedStep.node? = [] := by
  simp [GroupSeed.steps, List.filterMap_cons, SeedStep.node?]

theorem nodes_of_repository (home : String) (r : RepositorySeed) :
    (r.steps home).filterMap SeedStep.node? = r.nodes home := by
  simp [RepositorySeed.steps, RepositorySeed.nodes, SeedStep.node?, Function.comp_def]

theorem nodes_of_realm (r : RealmSeed) : r.steps.filterMap SeedStep.node? = r.nodes := by
  simp [RealmSeed.steps, RealmSeed.nodes, SeedStep.node?, Function.comp_def,
    List.filterMap_flatMap, nodes_of_group, nodes_of_repository]

theorem nodes_eq (s : Seed) : s.steps.filterMap SeedStep.node? = s.nodes := by
  simp [steps, nodes, List.filterMap_flatMap, nodes_of_realm, SeedStep.node?, Function.comp_def]

theorem paths_eq (s : Seed) : s.steps.filterMap SeedStep.path? = s.nodes.map SeedNode.path := by
  rw [← nodes_eq, List.map_filterMap]
  rfl

theorem logins_of_realm (r : RealmSeed) :
    r.steps.filterMap SeedStep.login? = r.users.map UserSeed.login := by
  simp [RealmSeed.steps, GroupSeed.steps, RepositorySeed.steps, List.filterMap_cons,
    SeedStep.login?, List.filterMap_flatMap, Function.comp_def]

theorem logins_eq (s : Seed) : s.steps.filterMap SeedStep.login? = s.users.map UserSeed.login := by
  simp [steps, users, List.filterMap_flatMap, logins_of_realm, SeedStep.login?, List.map_flatMap,
    Function.comp_def]

theorem mem_groupPaths {path : String} :
    path ∈ s.groupPaths ↔ ∃ step ∈ s.steps, step.name? = some (.group path) := by
  rw [← groupPaths_eq, List.mem_filterMap]
  simp only [groupPath?_eq_some]

theorem mem_steps_user_iff {home : String} {u : UserSeed} :
    SeedStep.user home u ∈ s.steps ↔ ∃ r ∈ s.realms, u ∈ r.users ∧ r.name = home := by
  simp [steps, RealmSeed.steps, GroupSeed.steps, RepositorySeed.steps]

theorem realm_names_sublist (s : Seed) :
    (s.realms.map RealmSeed.name).Sublist (s.nodes.map SeedNode.path) := by
  rw [nodes]
  induction s.realms with
  | nil => exact .slnil
  | cons r rest ih =>
    rw [List.map_cons, List.flatMap_cons, List.map_append]
    exact .cons_cons r.name (ih.trans (List.sublist_append_right ..))

theorem realm_unique (paths : (s.nodes.map SeedNode.path).Nodup) {r r' : RealmSeed}
    (hr : r ∈ s.realms) (hr' : r' ∈ s.realms) (same : r.name = r'.name) : r = r' :=
  List.inj_on_of_nodup_map (paths.sublist s.realm_names_sublist) hr hr' same

theorem mem_realms_of_name {step : SeedStep} {a : SeedName} (h : step ∈ s.steps)
    (name : step.name? = some a) : step ∈ s.realms.flatMap RealmSeed.steps := by
  rcases List.mem_append.1 h with here | grant
  · exact here
  · obtain ⟨g, _, rfl⟩ := List.mem_map.1 grant
    cases name

/-- The members of a group come right after it. -/
theorem groupHome?_members (done : List SeedStep) (home : String) (g : GroupSeed)
    (members : List String) :
    groupHome? (done ++ .group home g.name g.description ::
      members.map (.member (seedPath home g.name))) (seedPath home g.name) = some home := by
  have unchanged : ∀ known, (members.map (SeedStep.member (seedPath home g.name))).foldl
      (SeedStep.rehome (seedPath home g.name)) known = known := by
    induction members with
    | nil => exact fun _ => rfl
    | cons _ _ ih => exact ih
  rw [groupHome?, List.foldl_append, List.foldl_cons, unchanged]
  exact if_pos rfl

/-! ## 5. What the steps of a seed need -/

section Needs

variable (needs : AtEach SeedStep.Needs [] s.steps)
include needs

theorem members_of_needs (paths : (s.nodes.map SeedNode.path).Nodup) {r : RealmSeed}
    (hr : r ∈ s.realms) {g : GroupSeed} (hg : g ∈ r.groups) {login : String}
    (hm : login ∈ g.members) : ∃ u ∈ r.users, u.login = login := by
  obtain ⟨realms, realms', split⟩ := List.append_of_mem hr
  obtain ⟨groups, groups', split'⟩ := List.append_of_mem hg
  obtain ⟨members, members', split''⟩ := List.append_of_mem hm
  -- the steps up to this member end with its group and the members before it
  have steps : s.steps = realms.flatMap RealmSeed.steps ++ (.realm r.name r.description ::
      r.users.map (.user r.name)) ++ groups.flatMap (GroupSeed.steps r.name) ++
      .group r.name g.name g.description :: members.map (.member (seedPath r.name g.name)) ++
      .member (seedPath r.name g.name) login :: (members'.map (.member (seedPath r.name g.name)) ++
      groups'.flatMap (GroupSeed.steps r.name) ++
      r.repositories.flatMap (RepositorySeed.steps r.name) ++ realms'.flatMap RealmSeed.steps ++
      s.grants.map .grant) := by
    simp [Seed.steps, split, RealmSeed.steps, split', GroupSeed.steps, split'']
  obtain ⟨home, u, last, hu, rfl⟩ := needs _ _ _ steps
  rw [List.nil_append, groupHome?_members] at last
  cases last
  have listed : SeedStep.user r.name u ∈ s.steps := by
    rw [steps]
    exact List.mem_append_left _ hu
  obtain ⟨r', hr', hu', same⟩ := mem_steps_user_iff.1 listed
  obtain rfl := realm_unique paths hr' hr same
  exact ⟨u, hu', rfl⟩

theorem images_of_needs {r : RealmSeed} (hr : r ∈ s.realms) {repo : RepositorySeed}
    (hrepo : repo ∈ r.repositories) {i : ImageSeed} (hi : i ∈ repo.images) :
    ImageName.check i.name = .ok () := by
  have made : SeedStep.child (seedPath r.name repo.name) i.name (.newDockerImage i.signature) ∈
      s.steps := by
    refine mem_steps_of_realm hr (List.mem_append_right _ (List.mem_flatMap.2 ⟨repo, hrepo, ?_⟩))
    refine List.mem_cons_of_mem _ (List.mem_map.2 ⟨(i.name, .newDockerImage i.signature), ?_, rfl⟩)
    simp only [RepositorySeed.children, List.mem_append, List.mem_map]
    exact Or.inl (Or.inl (Or.inr ⟨i, hi, rfl⟩))
  obtain ⟨before, _, valid, _⟩ := needs.of_mem made
  exact valid rfl

theorem grants_of_needs {g : GrantSeed} (hg : g ∈ s.grants) :
    (∃ n ∈ s.nodes, n.path = g.resource) ∧
      ((∃ u ∈ s.users, g.user = some u.login ∧ g.group = none) ∨
        ∃ path ∈ s.groupPaths, g.user = none ∧ g.group = some path) := by
  obtain ⟨before, subset, ⟨_, step, hstep, n, hn, path, _⟩, a, holder, step', hstep', name⟩ :=
    needs.of_mem (mem_steps_grant.2 hg)
  rw [List.nil_append] at hstep hstep'
  refine ⟨⟨n, ?_, path⟩, ?_⟩
  · rw [← nodes_eq]
    exact List.mem_filterMap.2 ⟨step, subset hstep, hn⟩
  · unfold GrantSeed.holder? at holder
    split at holder
    · next login user group =>
      cases holder
      obtain ⟨home, u, rfl, rfl⟩ := SeedStep.name?_eq_user.1 name
      exact Or.inl ⟨u, mem_users (subset hstep'), user, group⟩
    · next path user group =>
      cases holder
      exact Or.inr ⟨path, mem_groupPaths.2 ⟨step', subset hstep', name⟩, user, group⟩
    · cases holder

end Needs

theorem declared_realm {done : List SeedStep} {r : RealmSeed}
    (made : SeedStep.realm r.name r.description ∈ done) : Declared done r.name .realm :=
  ⟨_, made, _, rfl, rfl, rfl⟩

theorem needs_of_realm {r : RealmSeed} {done : List SeedStep}
    (members : ∀ g ∈ r.groups, ∀ login ∈ g.members, ∃ u ∈ r.users, u.login = login)
    (images : ∀ repo ∈ r.repositories, ∀ i ∈ repo.images, ImageName.check i.name = .ok ()) :
    AtEach SeedStep.Needs done r.steps := by
  rw [RealmSeed.steps, atEach_append, atEach_append, atEach_cons]
  refine ⟨⟨⟨trivial, atEach_of_subset ?users⟩, atEach_flatMap ?groups⟩,
    atEach_flatMap ?repositories⟩
  case users =>
    intro step hstep before more
    obtain ⟨u, _, rfl⟩ := List.mem_map.1 hstep
    exact declared_realm (more (by simp))
  case groups =>
    intro g hg before more
    rw [GroupSeed.steps, atEach_cons]
    refine ⟨declared_realm (more (by simp)), ?_⟩
    intro earlier step later split
    obtain ⟨logins, rest, whole, rfl, after⟩ := List.map_eq_append_iff.1 split
    obtain ⟨login, logins', rfl, rfl, rfl⟩ := List.map_eq_cons_iff.1 after
    obtain ⟨u, hu, rfl⟩ := members g hg login (by simp [whole])
    refine ⟨r.name, u, ?_, ?_, rfl⟩
    · rw [List.append_assoc]
      exact groupHome?_members before r.name g logins
    · exact List.mem_append_left _ (List.mem_append_left _ (more (by simp [hu])))
  case repositories =>
    intro repo hrepo before more
    rw [RepositorySeed.steps, atEach_cons]
    refine ⟨declared_realm (more (by simp)), atEach_of_subset ?_⟩
    intro step hstep between more'
    obtain ⟨⟨name, kind⟩, hc, rfl⟩ := List.mem_map.1 hstep
    have made : SeedStep.repository r.name repo.name repo.description ∈ between :=
      more' (by simp)
    obtain ⟨fits, image⟩ := RepositorySeed.kind_of_child hc
    refine ⟨fun isImage => ?_, .repository, ⟨_, made, _, rfl, rfl, rfl⟩, fits⟩
    obtain ⟨i, hi, rfl⟩ := image isImage
    exact images repo hrepo i hi

/-- Whatever the steps of a seed need is declared in the seed where it belongs. -/
theorem atEach_needs_iff (paths : (s.nodes.map SeedNode.path).Nodup) :
    AtEach SeedStep.Needs [] s.steps ↔
      (∀ r ∈ s.realms, ∀ g ∈ r.groups, ∀ login ∈ g.members, ∃ u ∈ r.users, u.login = login) ∧
      (∀ r ∈ s.realms, ∀ repo ∈ r.repositories, ∀ i ∈ repo.images,
        ImageName.check i.name = .ok ()) ∧
      ∀ g ∈ s.grants, (∃ n ∈ s.nodes, n.path = g.resource) ∧
        ((∃ u ∈ s.users, g.user = some u.login ∧ g.group = none) ∨
          ∃ path ∈ s.groupPaths, g.user = none ∧ g.group = some path) := by
  constructor
  · intro needs
    exact ⟨fun r hr g hg login hm => members_of_needs needs paths hr hg hm,
      fun r hr repo hrepo i hi => images_of_needs needs hr hrepo hi,
      fun g hg => grants_of_needs needs hg⟩
  · rintro ⟨members, images, grants⟩
    rw [steps, atEach_append]
    refine ⟨atEach_flatMap fun r hr before _ => needs_of_realm (members r hr) (images r hr),
      atEach_of_subset fun step hstep before more => ?_⟩
    obtain ⟨g, hg, rfl⟩ := List.mem_map.1 hstep
    obtain ⟨⟨n, hn, path⟩, whom⟩ := grants g hg
    rw [← nodes_eq, List.mem_filterMap] at hn
    obtain ⟨step, hstep, hn⟩ := hn
    have here {step : SeedStep} {a : SeedName} (h : step ∈ s.steps) (name : step.name? = some a) :
        step ∈ before := more (mem_realms_of_name h name)
    refine ⟨⟨_, step, here hstep (SeedStep.name?_eq_resource.2 ⟨n, hn, rfl⟩), n, hn, path, rfl⟩, ?_⟩
    rcases whom with ⟨u, hu, user, group⟩ | ⟨path, hpath, user, group⟩
    · obtain ⟨home, hstep⟩ := mem_steps_user hu
      exact ⟨.user u.login, by rw [GrantSeed.holder?, user, group], _, here hstep rfl, rfl⟩
    · obtain ⟨step, hstep, name⟩ := mem_groupPaths.1 hpath
      exact ⟨.group path, by rw [GrantSeed.holder?, user, group], _, here hstep name, name⟩

/-- A seed is carried out in full on an empty store exactly when it is acceptable. -/
theorem sow_completes_iff {e : Supply} (fresh : Function.Injective e.ids) (s : Seed) :
    (s.sow e .empty).2 = none ↔ s.Acceptable := by
  rw [sow, (Planted.start e).completes_iff fresh, atEach_and, atEach_new, paths_eq, logins_eq]
  constructor
  · rintro ⟨needs, paths, logins⟩
    obtain ⟨members, images, grants⟩ := (atEach_needs_iff paths).1 needs
    exact ⟨paths, logins, members, images, grants⟩
  · intro h
    exact ⟨(atEach_needs_iff h.paths).2 ⟨h.members, h.images, h.grants⟩, h.paths, h.logins⟩

end Seed

end AccessControl
