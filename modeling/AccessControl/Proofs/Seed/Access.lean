/-
  AccessControl/Proofs/Seed/Access.lean
  =====================================
  **A seed means what it says.**

  What a seed allows can be read off it without any store: a user may do what a grant on
  a resource, or on what directly encloses the resource, gives to the user or to a group
  that lists the user.  Once a seed was carried out on an empty store, that is exactly
  what is decided, for each of its users and each of its resources.

  ## Main definitions

  * `Seed.Declares`, `Seed.groupPaths`, `Seed.HasMember`: what a seed declares;
  * `Seed.Allows`: what a seed allows.

  ## Main statements

  * `Sown.gives_iff`, `Sown.joined_iff`: the store's grants and members are the seed's;
  * `Sown.held_iff`: what a user holds, itself or through a group;
  * `decision_of_seed`: decisions after a seed was carried out.
-/
import AccessControl.Proofs.Access.Verdict
import AccessControl.Proofs.Seed.Sown

namespace AccessControl

/-! ## 1. What a seed says -/

namespace Seed

/-- The paths of all groups. -/
def groupPaths (s : Seed) : List String :=
  s.realms.flatMap fun r => r.groups.map fun g => seedPath r.name g.name

/-- A resource with this path is declared, and so is what directly encloses it; nothing
    encloses a realm. -/
inductive Declares (s : Seed) : String → Option String → Prop
  | realm {r : RealmSeed} (hr : r ∈ s.realms) : Declares s r.name none
  | repository {r : RealmSeed} {repo : RepositorySeed} (hr : r ∈ s.realms)
      (hrepo : repo ∈ r.repositories) : Declares s (seedPath r.name repo.name) (some r.name)
  | child {r : RealmSeed} {repo : RepositorySeed} {name : String} {kind : ResourceKind}
      (hr : r ∈ s.realms) (hrepo : repo ∈ r.repositories) (hc : (name, kind) ∈ repo.children) :
      Declares s (seedPath (seedPath r.name repo.name) name) (some (seedPath r.name repo.name))

/-- The group with this path lists the login. -/
def HasMember (s : Seed) (path login : String) : Prop :=
  ∃ r ∈ s.realms, ∃ g ∈ r.groups, login ∈ g.members ∧ seedPath r.name g.name = path

/-- A grant gives the permission on the resource, or on what encloses it, to the user or to
    a group that lists the user. -/
def Allows (s : Seed) (login : String) (p : Permission) (path : String)
    (enclosing : Option String) : Prop :=
  ∃ g ∈ s.grants, p ∈ g.permissions ∧ (g.resource = path ∨ enclosing = some g.resource) ∧
    (g.user = some login ∨ ∃ group, g.group = some group ∧ s.HasMember group login)

end Seed

/-- The index knows the parent as what encloses a resource; nothing encloses what has no
    parent. -/
inductive SeedIndex.Encloses (x : SeedIndex) : Option String → Option ObjectId → Prop
  | nothing : Encloses x none none
  | resource {path : String} {id : ObjectId} (named : x.id? (.resource path) = some id) :
      Encloses x (some path) (some id)

namespace Seed

variable {s : Seed}

theorem mem_steps_of_realm {r : RealmSeed} (hr : r ∈ s.realms) {step : SeedStep}
    (h : step ∈ r.steps) : step ∈ s.steps :=
  List.mem_append_left _ (List.mem_flatMap.2 ⟨r, hr, h⟩)

theorem mem_steps_user {u : UserSeed} (hu : u ∈ s.users) :
    ∃ home, SeedStep.user home u ∈ s.steps := by
  obtain ⟨r, hr, hu⟩ := List.mem_flatMap.1 hu
  refine ⟨r.name, mem_steps_of_realm hr ?_⟩
  simp [RealmSeed.steps, hu]

theorem mem_steps_grant {g : GrantSeed} : SeedStep.grant g ∈ s.steps ↔ g ∈ s.grants := by
  simp [steps, RealmSeed.steps, GroupSeed.steps, RepositorySeed.steps]

theorem mem_steps_member {path login : String} :
    SeedStep.member path login ∈ s.steps ↔ s.HasMember path login := by
  simp [steps, RealmSeed.steps, GroupSeed.steps, RepositorySeed.steps, HasMember]

theorem groupPaths_of_group (home : String) (g : GroupSeed) :
    (g.steps home).filterMap SeedStep.groupPath? = [seedPath home g.name] := by
  have members : (g.members.map (SeedStep.member (seedPath home g.name))).filterMap
      SeedStep.groupPath? = [] := by
    rw [List.filterMap_eq_nil_iff]
    intro step hstep
    obtain ⟨login, _, rfl⟩ := List.mem_map.1 hstep
    rfl
  exact congrArg (seedPath home g.name :: ·) members

theorem groupPaths_of_realm (r : RealmSeed) :
    r.steps.filterMap SeedStep.groupPath? = r.groups.map fun g => seedPath r.name g.name := by
  have before : (SeedStep.realm r.name r.description :: r.users.map (.user r.name)).filterMap
      SeedStep.groupPath? = [] := by
    rw [List.filterMap_eq_nil_iff]
    intro step hstep
    rcases List.mem_cons.1 hstep with rfl | hstep
    · rfl
    · obtain ⟨u, _, rfl⟩ := List.mem_map.1 hstep
      rfl
  have groups : (r.groups.flatMap (GroupSeed.steps r.name)).filterMap SeedStep.groupPath? =
      r.groups.map fun g => seedPath r.name g.name := by
    induction r.groups with
    | nil => rfl
    | cons g rest ih =>
      rw [List.flatMap_cons, List.filterMap_append, groupPaths_of_group, ih]
      rfl
  have after : (r.repositories.flatMap (RepositorySeed.steps r.name)).filterMap
      SeedStep.groupPath? = [] := by
    rw [List.filterMap_eq_nil_iff]
    intro step hstep
    obtain ⟨repo, _, hstep⟩ := List.mem_flatMap.1 hstep
    rcases List.mem_cons.1 hstep with rfl | hstep
    · rfl
    · obtain ⟨c, _, rfl⟩ := List.mem_map.1 hstep
      rfl
  rw [RealmSeed.steps, List.filterMap_append, List.filterMap_append, before, groups, after]
  simp

theorem groupPaths_eq (s : Seed) : s.steps.filterMap SeedStep.groupPath? = s.groupPaths := by
  have grants : (s.grants.map SeedStep.grant).filterMap SeedStep.groupPath? = [] := by
    rw [List.filterMap_eq_nil_iff]
    intro step hstep
    obtain ⟨g, _, rfl⟩ := List.mem_map.1 hstep
    rfl
  rw [Seed.steps, groupPaths, List.filterMap_append, grants, List.append_nil]
  induction s.realms with
  | nil => rfl
  | cons r rest ih =>
    rw [List.flatMap_cons, List.filterMap_append, groupPaths_of_realm, ih]
    rfl

/-- What is declared is made by a step, in the place where it is declared. -/
theorem Declares.makes {path : String} {enclosing : Option String} (h : s.Declares path enclosing) :
    ∃ step ∈ s.steps, ∀ e x c, step.Asks e x c →
      ∃ id parentId, x.id? (.resource path) = some id ∧ x.Encloses enclosing parentId ∧
        c.Makes id parentId := by
  cases h with
  | realm hr =>
    refine ⟨_, mem_steps_of_realm hr (List.mem_append_left _ (List.mem_append_left _
      (List.mem_cons_self ..))), ?_⟩
    intro e x c asks
    cases asks with
    | realm named => exact ⟨_, _, named, .nothing, .realm ..⟩
  | @repository r repo hr hrepo =>
    refine ⟨_, mem_steps_of_realm hr (List.mem_append_right _ (List.mem_flatMap.2
      ⟨repo, hrepo, List.mem_cons_self ..⟩)), ?_⟩
    intro e x c asks
    cases asks with
    | repository home named => exact ⟨_, _, named, .resource home, .repository ..⟩
  | @child r repo name kind hr hrepo hc =>
    refine ⟨.child (seedPath r.name repo.name) name kind, mem_steps_of_realm hr
      (List.mem_append_right _ (List.mem_flatMap.2 ⟨repo, hrepo, List.mem_cons_of_mem _
        (List.mem_map.2 ⟨_, hc, rfl⟩)⟩)), ?_⟩
    intro e x c asks
    cases asks with
    | child above named => exact ⟨_, _, named, .resource above, .resource ..⟩

end Seed

/-! ## 2. What the store holds in the end -/

namespace Sown

variable {e : Supply} {done : List SeedStep} {log : List Deed} {w : Sowing}

/-- The grants of the store are those of the seed. -/
theorem gives_iff (h : Sown e done log w) (i c : ObjectId) (p : Permission) :
    w.store.accessMap.Gives i c p ↔
      ∃ g a, SeedStep.grant g ∈ done ∧ p ∈ g.permissions ∧
        w.index.id? (.resource g.resource) = some i ∧ g.holder? = some a ∧
        w.index.id? a = some c := by
  have adding : ∀ d ∈ log, d.OnlyAdds := by
    intro d hd
    obtain ⟨_, step, _, asks⟩ := h.answered d hd
    exact asks.onlyAdds d.done
  rw [h.run.gives_iff adding]
  constructor
  · rintro ⟨d, hd, id, mask, rfl, holds⟩
    obtain ⟨_, step, hstep, asks⟩ := h.answered _ hd
    cases asks with
    | @grant g a _ _ _ hr names ha =>
      rw [Mask.contains_of, decide_eq_true_eq] at holds
      exact ⟨g, a, hstep, holds, hr, names, ha⟩
  · rintro ⟨g, a, hstep, holds, hr, names, ha⟩
    obtain ⟨change, asks, hc⟩ := h.asked _ hstep
    cases asks with
    | @grant _ a' id i' c' hr' names' ha' =>
      rw [hr] at hr'
      rw [names] at names'
      cases hr'
      cases names'
      rw [ha] at ha'
      cases ha'
      exact ⟨_, hc, id, _, rfl, by rw [Mask.contains_of, decide_eq_true_eq]; exact holds⟩

/-- The members of the groups are those that the seed lists. -/
theorem joined_iff (h : Sown e done log w) (i k : ObjectId) :
    (∃ groups, w.store.parties.view Party.groupIds i = some groups ∧ k ∈ groups) ↔
      ∃ path login, SeedStep.member path login ∈ done ∧
        w.index.id? (.user login) = some i ∧ w.index.id? (.group path) = some k := by
  have joined := h.run.joined_iff i k
  rw [joined]
  constructor
  · intro hd
    obtain ⟨_, step, hstep, asks⟩ := h.answered _ hd
    cases asks with
    | @member path login _ _ hu hg => exact ⟨path, login, hstep, hu, hg⟩
  · rintro ⟨path, login, hstep, hu, hg⟩
    obtain ⟨c, asks, hc⟩ := h.asked _ hstep
    cases asks with
    | member hu' hg' =>
      rw [hu] at hu'
      rw [hg] at hg'
      cases hu'
      cases hg'
      exact hc

/-- What a user holds, itself or through a group, on a resource. -/
theorem held_iff (h : Sown e done log w) {login : String} {i : ObjectId}
    (known : w.index.id? (.user login) = some i) {groups : List ObjectId}
    (hgroups : w.store.parties.view Party.groupIds i = some groups) {path : String}
    {resourceId : ObjectId} (target : w.index.id? (.resource path) = some resourceId)
    (p : Permission) :
    (∃ c ∈ i :: groups, w.store.accessMap.Gives resourceId c p) ↔
      ∃ g, SeedStep.grant g ∈ done ∧ p ∈ g.permissions ∧ g.resource = path ∧
        (g.holder? = some (.user login) ∨
          ∃ group, g.holder? = some (.group group) ∧ SeedStep.member group login ∈ done) := by
  constructor
  · rintro ⟨c, hc, gives⟩
    obtain ⟨g, a, hg, holds, hr, names, ha⟩ := (h.gives_iff _ _ _).1 gives
    have samePath : SeedName.resource g.resource = .resource path := h.apart _ _ _ hr target
    refine ⟨g, hg, holds, by cases samePath; rfl, ?_⟩
    rcases List.mem_cons.1 hc with rfl | hc
    · -- the grant is to the user itself
      have same : a = .user login := h.apart _ _ _ ha known
      exact Or.inl (same ▸ names)
    · -- the grant is to one of the groups that the user was added to
      obtain ⟨group, login', member, hu, hk⟩ := (h.joined_iff i c).1 ⟨groups, hgroups, hc⟩
      have sameUser : SeedName.user login' = .user login := h.apart _ _ _ hu known
      have same : a = .group group := h.apart _ _ _ ha hk
      cases sameUser
      exact Or.inr ⟨group, same ▸ names, member⟩
  · rintro ⟨g, hg, holds, rfl, names | ⟨group, names, member⟩⟩
    · exact ⟨i, List.mem_cons_self .., (h.gives_iff _ _ _).2
        ⟨g, _, hg, holds, target, names, known⟩⟩
    · obtain ⟨c, asks, _⟩ := h.asked _ member
      cases asks with
      | @member _ _ _ k hu hk =>
        rw [known] at hu
        cases hu
        obtain ⟨groups', hgroups', hk'⟩ := (h.joined_iff i k).2 ⟨group, login, member, known, hk⟩
        rw [hgroups] at hgroups'
        cases hgroups'
        exact ⟨k, List.mem_cons_of_mem _ hk', (h.gives_iff _ _ _).2
          ⟨g, _, hg, holds, target, names, hk⟩⟩

theorem holder?_eq (h : Sown e done log w) {g : GrantSeed} (hg : SeedStep.grant g ∈ done) :
    (∀ login, g.holder? = some (.user login) ↔ g.user = some login) ∧
      ∀ path, g.holder? = some (.group path) ↔ g.group = some path := by
  obtain ⟨c, asks, _⟩ := h.asked _ hg
  cases asks with
  | grant _ names _ =>
    unfold GrantSeed.holder? at names ⊢
    rcases hu : g.user with _ | login <;> rcases hp : g.group with _ | path
    · rw [hu, hp] at names
      cases names
    · simp
    · simp
    · rw [hu, hp] at names
      cases names

theorem allows_iff {seed : Seed} (h : Sown e seed.steps log w) (login : String) (p : Permission)
    (path : String) (enclosing : Option String) :
    seed.Allows login p path enclosing ↔
      ∃ outer, (outer = path ∨ enclosing = some outer) ∧
        ∃ g, SeedStep.grant g ∈ seed.steps ∧ p ∈ g.permissions ∧ g.resource = outer ∧
          (g.holder? = some (.user login) ∨
            ∃ group, g.holder? = some (.group group) ∧
              SeedStep.member group login ∈ seed.steps) := by
  constructor
  · rintro ⟨g, hg, holds, place, whom⟩
    have hg := Seed.mem_steps_grant.2 hg
    obtain ⟨toUser, toGroup⟩ := h.holder?_eq hg
    refine ⟨g.resource, place, g, hg, holds, rfl, ?_⟩
    rcases whom with named | ⟨group, named, member⟩
    · exact Or.inl ((toUser login).2 named)
    · exact Or.inr ⟨group, (toGroup group).2 named, Seed.mem_steps_member.2 member⟩
  · rintro ⟨_, place, g, hg, holds, rfl, whom⟩
    obtain ⟨toUser, toGroup⟩ := h.holder?_eq hg
    refine ⟨g, Seed.mem_steps_grant.1 hg, holds, place, ?_⟩
    rcases whom with named | ⟨group, named, member⟩
    · exact Or.inl ((toUser login).1 named)
    · exact Or.inr ⟨group, (toGroup group).1 named, Seed.mem_steps_member.1 member⟩

theorem index_of_user {seed : Seed} (h : Sown e seed.steps log w) {u : UserSeed}
    (hu : u ∈ seed.users) : ∃ i, w.index.id? (.user u.login) = some i := by
  obtain ⟨home, huser⟩ := Seed.mem_steps_user hu
  obtain ⟨c, asks, _⟩ := h.asked _ huser
  cases asks with
  | user _ named => exact ⟨_, named⟩

theorem user_of_index (h : Sown e done log w) {login : String} {i : ObjectId}
    (known : w.index.id? (.user login) = some i) :
    ∃ u, w.store.parties.get? i = some (.user u) ∧ u.info.id = i ∧
      w.store.userWith? ⟨login⟩ = some u := by
  have sound := h.run.sound
  obtain ⟨party, stored, hlogin⟩ :=
    Shelf.view_eq_some.1 ((sound.connected.known ⟨login⟩ i).1 (h.login_taken known))
  cases party with
  | group g => cases hlogin
  | user u =>
    have own : u.info.id = i := sound.parties i _ stored
    have found : w.store.user ⟨login⟩ = .ok u :=
      sound.user_eq_ok.2 ⟨own ▸ stored, Option.some.inj hlogin⟩
    exact ⟨u, stored, own, (user_eq_ok_iff_userWith? sound).1 found⟩

end Sown

/-! ## 3. Decisions -/

theorem isSome_entryGiving? {s : Store} {p : Permission} {resourceId partyId : ObjectId} :
    (s.entryGiving? p resourceId partyId).isSome = true ↔
      s.accessMap.Gives resourceId partyId p := by
  show ((s.entryFor? resourceId partyId).filter fun e => e.mask.contains p).isSome = true ↔
    ∃ m, (s.entryFor? resourceId partyId).map AclEntry.mask = some m ∧ m.contains p = true
  rcases s.entryFor? resourceId partyId with _ | e
  · simp
  · by_cases holds : e.mask.contains p = true <;> simp [holds]

namespace Sown

variable {e : Supply} {seed : Seed} {log : List Deed} {w : Sowing}

theorem resource_of_declared (h : Sown e seed.steps log w) {path : String}
    {enclosing : Option String} (hn : seed.Declares path enclosing) :
    ∃ id r, w.index.id? (.resource path) = some id ∧ w.store.resources.get? id = some r ∧
      r.id = id ∧ w.index.Encloses enclosing r.parentId := by
  obtain ⟨step, hstep, made⟩ := hn.makes
  obtain ⟨c, asks, hc⟩ := h.asked step hstep
  obtain ⟨id, parentId, target, place, makes⟩ := made _ _ _ asks
  obtain ⟨r, hr, rfl⟩ := Shelf.view_eq_some.1 (h.run.parent_of_makes .start hc makes)
  exact ⟨id, r, target, hr, h.run.sound.resources id r hr, place⟩

theorem granted_iff (h : Sown e seed.steps log w) {login : String} {i : ObjectId}
    (known : w.index.id? (.user login) = some i) {groups : List ObjectId}
    (hgroups : w.store.parties.view Party.groupIds i = some groups) {path : String}
    {enclosing : Option String} {r : Resource}
    (target : w.index.id? (.resource path) = some r.id)
    (place : w.index.Encloses enclosing r.parentId) (p : Permission) :
    (∃ c ∈ i :: groups, (w.store.grantFor? p r c).isSome = true) ↔
      seed.Allows login p path enclosing := by
  rw [h.allows_iff]
  constructor
  · rintro ⟨c, hc, holds⟩
    rcases (isSome_grantFor? p r c).1 holds with direct | ⟨parent, isParent, indirect⟩
    · exact ⟨path, Or.inl rfl,
        (h.held_iff known hgroups target p).1 ⟨c, hc, isSome_entryGiving?.1 direct⟩⟩
    · rw [isParent] at place
      cases place with
      | resource above =>
        exact ⟨_, Or.inr rfl,
          (h.held_iff known hgroups above p).1 ⟨c, hc, isSome_entryGiving?.1 indirect⟩⟩
  · rintro ⟨outer, here, held⟩
    rcases here with rfl | rfl
    · obtain ⟨c, hc, gives⟩ := (h.held_iff known hgroups target p).2 held
      exact ⟨c, hc, (isSome_grantFor? p r c).2 (Or.inl (isSome_entryGiving?.2 gives))⟩
    · rcases isParent : r.parentId with _ | parent
      · rw [isParent] at place
        cases place
      · rw [isParent] at place
        cases place with
        | resource above =>
          obtain ⟨c, hc, gives⟩ := (h.held_iff known hgroups above p).2 held
          exact ⟨c, hc, (isSome_grantFor? p r c).2
            (Or.inr ⟨parent, isParent, isSome_entryGiving?.2 gives⟩)⟩

end Sown

/-- A seed that is carried out in full on an empty store, and in which no two groups have
    the same path, means what it says: each of its users is told about each of its
    resources, and about each permission, what the seed allows. -/
theorem decision_of_seed {e : Supply} (fresh : Function.Injective e.ids) {seed : Seed}
    {w : Sowing} (hw : seed.sow e .empty = (w, none)) (distinct : seed.groupPaths.Nodup)
    {u : UserSeed} (hu : u ∈ seed.users) {path : String} {enclosing : Option String}
    (hn : seed.Declares path enclosing) (p : Permission) {token : SessionToken}
    (ht : token.userId = ⟨u.login⟩) :
    ∃ id allow, w.index.resource path = .ok id ∧
      (w.store.lookups.decision token.userId (Mask.single p) id).map Decision.allow = .ok allow ∧
      (allow = true ↔ seed.Allows u.login p path enclosing) := by
  rw [← seed.groupPaths_eq] at distinct
  obtain ⟨log, sown⟩ := sown_of_sow fresh hw distinct
  have sound := sown.run.sound
  obtain ⟨i, known⟩ := sown.index_of_user hu
  obtain ⟨user, stored, own, found⟩ := sown.user_of_index known
  obtain ⟨id, r, target, hr, ownId, place⟩ := sown.resource_of_declared hn
  -- no account is asked about, since no user is a resource
  have other : user.info.id ≠ id := by
    intro same
    rw [own] at same
    rw [← same] at hr
    exact sound.apart i (Shelf.mem_keys_of_get? hr) (Shelf.mem_keys_of_get? stored)
  obtain ⟨allow, answer, yes⟩ := allow_verdict (p := p) found other hr
  refine ⟨id, allow, find_eq_ok.2 target, ?_, yes.trans ?_⟩
  · rw [ht, decision_single, decisionOn_of_user sound found]
    exact answer
  · rw [own]
    exact sown.granted_iff known (Shelf.view_of_get? stored) (ownId ▸ target) place p

/-! ## 4. A seed -/

def Supply.sample : Supply where
  ids n := ⟨String.ofList (List.replicate n 'i')⟩
  now := ⟨0⟩
  salt := ⟨[1], by decide⟩

theorem Supply.sample_injective : Function.Injective Supply.sample.ids := by
  intro m n same
  have lengths := congrArg (fun id : ObjectId => id.value.toList.length) same
  simpa [Supply.sample] using lengths

def RepositorySeed.sample : RepositorySeed :=
  ⟨"app", none, [⟨"Dockerfile", "/srv"⟩], [], [], []⟩

def RealmSeed.sample : RealmSeed :=
  ⟨"acme", none, [⟨"ann", none, "secret"⟩], [⟨"devs", none, ["ann"]⟩], [.sample]⟩

/-- A user who may write to a repository because its group may write to the realm. -/
def Seed.sample : Seed where
  realms := [.sample]
  grants := [⟨"acme", none, some "acme/devs", [.write]⟩, ⟨"acme/app", some "ann", none, [.read]⟩]

theorem decision_of_seed_sample :
    (Seed.sample.sow .sample .empty).2 = none ∧ Seed.sample.groupPaths.Nodup ∧
      Seed.sample.Declares "acme/app" (some "acme") ∧
      ∃ id, (Seed.sample.sow .sample .empty).1.index.resource "acme/app" = .ok id ∧
        ((Seed.sample.sow .sample .empty).1.store.lookups.decision ⟨"ann"⟩ (Mask.single .write)
          id).map Decision.allow = .ok true := by
  have carried : (Seed.sample.sow .sample .empty).2 = none := by decide
  have distinct : Seed.sample.groupPaths.Nodup := by decide
  have hr : RealmSeed.sample ∈ Seed.sample.realms := List.mem_singleton_self _
  have hrepo : RepositorySeed.sample ∈ RealmSeed.sample.repositories := List.mem_singleton_self _
  have declared : Seed.sample.Declares "acme/app" (some "acme") := .repository hr hrepo
  have member : Seed.sample.HasMember "acme/devs" "ann" :=
    ⟨_, List.mem_singleton_self _, _, List.mem_singleton_self _, List.mem_singleton_self _, rfl⟩
  have allows : Seed.sample.Allows "ann" .write "acme/app" (some "acme") :=
    ⟨_, List.mem_cons_self .., List.mem_singleton_self _, Or.inr rfl,
      Or.inr ⟨_, rfl, member⟩⟩
  obtain ⟨id, allow, target, answer, yes⟩ :=
    decision_of_seed Supply.sample_injective (Prod.ext rfl carried) distinct
      (List.mem_singleton_self _) declared .write
      (show (⟨⟨"session"⟩, ⟨"ann"⟩⟩ : SessionToken).userId = ⟨"ann"⟩ from rfl)
  rw [yes.2 allows] at answer
  exact ⟨carried, distinct, declared, id, target, answer⟩

end AccessControl
