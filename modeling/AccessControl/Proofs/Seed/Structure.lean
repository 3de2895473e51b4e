/-
  AccessControl/Proofs/Seed/Structure.lean
  ========================================
  **What a seed makes is what it declares.**

  After a seed was carried out on an empty store, everything that it declares is there, and of
  resources nothing else: each under its path, each group in its realm with the users that it
  lists, each user in its realm and in the groups that list it, and for each pair of a resource
  and a party the permissions of all grants that are about this pair.

  Grants come last, when all names are given.  So they are looked up under one index, whatever
  their order, and a pair gets a union of permissions, in which the order is lost.

  ## Main definitions

  * `GrantSeed.Resolves`: a grant is about a pair;
  * `pool`, `Seed.maskFor?`: what grants give together;
  * `SeedGroup.Made`: a group is as it is declared;
  * `Seed.Realized`: everything in the store is.

  ## Main statements

  * `Sowing.Work.grants`: what a row of grants does to the permissions of a pair;
  * `realized_of_work`: a seed that was carried out is realized;
  * `Seed.sow_reorder`: the order of the grants plays no part;
  * `sow_realizes`: which seeds can be carried out, and what they make.
-/
import AccessControl.Proofs.Seed.Gathered

namespace AccessControl

/-! ## 1. Grants -/

/-- The grant is on this resource and to this party. -/
def GrantSeed.Resolves (g : GrantSeed) (x : SeedIndex) (i c : ObjectId) : Prop :=
  x.resource g.resource = .ok i ∧ g.party x = .ok c

instance (g : GrantSeed) (x : SeedIndex) (i c : ObjectId) : Decidable (g.Resolves x i c) :=
  inferInstanceAs (Decidable (_ ∧ _))

/-- What grants give on top of what is held already. -/
def pool (held : Option Mask) (grants : List GrantSeed) : Option Mask :=
  if grants = [] then held
  else some ((held.getD .none).union (Mask.of (grants.flatMap GrantSeed.permissions)))

theorem pool_cons (held : Option Mask) (g : GrantSeed) (grants : List GrantSeed) :
    pool held (g :: grants) =
      pool (some ((held.getD .none).union (Mask.of g.permissions))) grants := by
  rw [pool, if_neg (List.cons_ne_nil _ _), List.flatMap_cons, pool]
  split
  · next empty =>
    rw [empty, List.flatMap_nil, List.append_nil]
  · refine congrArg some (Mask.ext fun p => ?_)
    simp [Bool.or_assoc]

/-- The permissions of all grants on a resource and to a party; nothing if there is none. -/
def Seed.maskFor? (s : Seed) (x : SeedIndex) (i c : ObjectId) : Option Mask :=
  let grants := s.grants.filter fun g => g.Resolves x i c
  if grants = [] then none else some (Mask.of (grants.flatMap GrantSeed.permissions))

theorem Seed.maskFor?_eq_pool (s : Seed) (x : SeedIndex) (i c : ObjectId) :
    s.maskFor? x i c = pool none (s.grants.filter fun g => g.Resolves x i c) := by
  rw [maskFor?, pool]
  split
  · rfl
  · refine congrArg some (Mask.ext fun p => ?_)
    simp

theorem Seed.maskFor?_of_perm {s : Seed} {grants : List GrantSeed} (same : grants.Perm s.grants)
    (x : SeedIndex) (i c : ObjectId) :
    ({ s with grants := grants } : Seed).maskFor? x i c = s.maskFor? x i c := by
  have about := same.filter fun g => g.Resolves x i c
  rw [maskFor?, maskFor?]
  have none_iff : grants.filter (fun g => g.Resolves x i c) = [] ↔
      s.grants.filter (fun g => g.Resolves x i c) = [] := by
    rw [← List.length_eq_zero_iff, ← List.length_eq_zero_iff, about.length_eq]
  have union : Mask.of ((grants.filter fun g => g.Resolves x i c).flatMap GrantSeed.permissions) =
      Mask.of ((s.grants.filter fun g => g.Resolves x i c).flatMap GrantSeed.permissions) :=
    Mask.ext fun p => by simp only [Mask.contains_of, (about.flatMap_right _).mem_iff]
  simp only [none_iff, union]

namespace Sowing

variable {e : Supply} {w v : Sowing} {steps : List SeedStep} {log : List Deed}

/-- What a row of grants does to the permissions of a pair. -/
theorem Work.grants {grants : List GrantSeed} (h : w.Work e (grants.map .grant) log v) :
    v.index = w.index ∧ ∀ a i c, log.foldl Deed.apply a i c =
      pool (a i c) (grants.filter fun g => g.Resolves w.index i c) := by
  induction grants generalizing w log with
  | nil =>
    cases h
    exact ⟨rfl, fun _ _ _ => rfl⟩
  | cons g rest ih =>
    obtain _ | ⟨first, later⟩ := h
    have unnamed := first.unnamed rfl
    have asks := first.asks
    rw [unnamed] at asks
    obtain ⟨same, given⟩ := ih later
    rw [unnamed] at same given
    refine ⟨same, fun a i c => ?_⟩
    cases asks with
    | @grant _ holder id resourceId partyId hr names ha =>
      have resolves : g.Resolves w.index i c ↔ resourceId = i ∧ partyId = c := by
        rw [GrantSeed.Resolves, SeedIndex.resource, find_eq_ok.2 hr,
          party_eq_ok.2 ⟨holder, names, ha⟩, Except.ok.injEq, Except.ok.injEq]
      rw [List.foldl_cons, given]
      by_cases about : resourceId = i ∧ partyId = c
      · rw [List.filter_cons, if_pos (decide_eq_true (resolves.2 about)), pool_cons]
        obtain ⟨rfl, rfl⟩ := about
        exact congrArg (pool · _) (if_pos ⟨rfl, rfl⟩)
      · rw [List.filter_cons, if_neg (by simpa using mt resolves.1 about)]
        exact congrArg (pool · _) (if_neg about)

theorem Work.foldl_apply (h : w.Work e steps log v) (others : ∀ step ∈ steps, ∀ g, step ≠ .grant g)
    (a : AccessMap) : log.foldl Deed.apply a = a := by
  induction h with
  | stay => rfl
  | @more w x v step steps c log first rest ih =>
    have same : Deed.apply a ⟨c, true⟩ = a := by
      obtain ⟨asks, _, _, _, _, _⟩ := first
      cases asks with
      | grant => exact absurd rfl (others _ (List.mem_cons_self ..) _)
      | _ => rfl
    rw [List.foldl_cons, same]
    exact ih fun later hlater => others later (List.mem_cons_of_mem _ hlater)

theorem run_append_inv {first second : List SeedStep}
    (h : w.run e (first ++ second) = (v, none)) :
    ∃ x, w.run e first = (x, none) ∧ x.run e second = (v, none) := by
  rw [run_append] at h
  rcases ran : w.run e first with ⟨x, _ | fault⟩
  · rw [ran] at h
    exact ⟨x, rfl, h⟩
  · rw [ran] at h
    cases h

end Sowing

theorem Seed.ne_grant {s : Seed} {step : SeedStep} (h : step ∈ s.realms.flatMap RealmSeed.steps)
    (g : GrantSeed) : step ≠ .grant g := by
  rintro rfl
  simp [RealmSeed.steps, GroupSeed.steps, RepositorySeed.steps] at h

theorem Seed.accessMap_of_work {s : Seed} {e : Supply} (fresh : Function.Injective e.ids)
    {w : Sowing} {log : List Deed} (work : Sowing.Work e ⟨.empty, .empty, 0⟩ s.steps log w)
    (i c : ObjectId) : w.store.accessMap i c = s.maskFor? w.index i c := by
  have followed : w.store.accessMap = log.foldl Deed.apply .empty :=
    (work.toRun fresh).accessMap .start .empty
  obtain ⟨x, log₁, log₂, rfl, realms, last⟩ := work.append_inv
  obtain ⟨same, given⟩ := last.grants
  rw [followed, List.foldl_append, realms.foldl_apply fun step hstep => ne_grant hstep, given,
    ← same, maskFor?_eq_pool]
  rfl

/-! ## 2. Everything that is declared -/

/-- The group is the one that was declared, and lists the users that were declared for it, each
    at its first place. -/
structure SeedGroup.Made (g : SeedGroup) (x : SeedIndex) (group : Group) : Prop where
  name : group.info.name = g.name
  description : group.description = g.description
  home : x.id? (.resource g.home) = some group.info.realmId
  members : group.userIds.map some = g.members.eraseDups.map fun login => x.id? (.user login)

/-- Everything in the store is as it is declared; the ids are those of the groups, in the order
    of the file. -/
structure Seed.Realized (s : Seed) (e : Supply) (w : Sowing) (ids : List ObjectId) : Prop where
  count : w.store.resourceCount = s.nodes.length
  paths : ∀ path, (∃ i, w.index.resource path = .ok i) ↔ path ∈ s.nodes.map SeedNode.path
  nodes : ∀ n ∈ s.nodes, ∃ r, w.store.resources.get? r.id = some r ∧ n.Made w.index r
  groups : List.Forall₂ (fun g k => ∃ group, w.store.parties.get? k = some (.group group) ∧
    g.Made w.index group) s.groups ids
  distinct : ids.Nodup
  /-- Of several groups with one path, the index has the last. -/
  entered : ∀ path, w.index.id? (.group path) = lastUnder (s.groups.zip ids) path
  logins : ∀ login, (∃ i, w.index.user login = .ok i) ↔ login ∈ s.users.map UserSeed.login
  /-- A user is in the groups that list it, in the order of the file. -/
  users : ∀ r ∈ s.realms, ∀ u ∈ r.users, ∃ user,
    w.store.parties.get? user.info.id = some (.user user) ∧ u.Made r.name e w.index user ∧
      user.groupIds = listing (s.groups.zip ids) u.login
  masks : ∀ i c, (w.store.entryFor? i c).map AclEntry.mask = s.maskFor? w.index i c

theorem Store.Grown.count {s : Store} {born : List Resource} (h : s.Grown born) :
    s.resourceCount = born.length := by
  have same : s.resources.keys.Perm (born.map Resource.id) := by
    refine (List.perm_ext_iff_of_nodup s.resources.distinct h.distinct).2 fun i => ?_
    constructor
    · intro hi
      obtain ⟨r, hr⟩ := Option.isSome_iff_exists.1 (Shelf.mem_keys.1 hi)
      obtain ⟨b, hb, rfl⟩ := h.born_of_stored hr
      exact List.mem_map_of_mem hb
    · intro hi
      obtain ⟨b, hb, rfl⟩ := List.mem_map.1 hi
      obtain ⟨r, hr, _⟩ := h.stored hb
      exact Shelf.mem_keys_of_get? hr
  have lengths := same.length_eq
  rwa [Shelf.keys, List.length_map, List.length_map] at lengths

section Whole

variable {s : Seed} {e : Supply} {w : Sowing} {log : List Deed}

/-- A seed that was carried out is realized. -/
theorem realized_of_work (fresh : Function.Injective e.ids)
    (work : Sowing.Work e ⟨.empty, .empty, 0⟩ s.steps log w) : ∃ ids, s.Realized e w ids := by
  obtain ⟨planted, _⟩ := work.planted fresh (.start e)
  rw [List.nil_append, List.nil_append] at planted
  have run := planted.housed.run
  obtain ⟨ids, gathered⟩ := gathers_seed fresh s (.start e) work fun _ _ _ known => known
  have distinct : ids.Nodup := by
    rw [← gathered.came]
    exact run.enrols.distinct.sublist (List.filter_sublist.map _)
  have distinctRows : ((s.groups.zip ids).map Prod.snd).Nodup := by
    rwa [List.map_snd_zip (Nat.le_of_eq gathered.made.length_eq.symm)]
  obtain ⟨lengths, made⟩ := List.forall₂_iff_zip.1 gathered.made
  refine ⟨ids, ?count, ?paths, ?nodes, ?groups, distinct, ?entered, ?logins, ?users, ?masks⟩
  case count => rw [run.grown.count, work.births_length, s.nodes_eq]
  case paths =>
    intro path
    rw [← s.paths_eq, planted.mem_paths]
    exact exists_congr fun i => find_eq_ok
  case nodes =>
    intro n hn
    rw [← s.nodes_eq, List.mem_filterMap] at hn
    obtain ⟨step, hstep, makes⟩ := hn
    exact planted.node hstep makes
  case groups =>
    refine List.forall₂_iff_zip.2 ⟨lengths, fun {g k} hrow => ?_⟩
    obtain ⟨realmId, home, asked⟩ := made hrow
    obtain ⟨q, stored, same⟩ := planted.housed.newcomer asked rfl
    cases q with
    | user u => cases congrArg Party.Lasting.account same
    | group group =>
      have stored : w.store.parties.get? k = some (.group group) := stored
      refine ⟨group, stored, congrArg Party.Lasting.name same,
        congrArg Party.Lasting.description same, ?home, ?members⟩
      case home =>
        rw [home]
        exact congrArg some (congrArg Party.Lasting.realmId same).symm
      case members =>
        rw [(run.userIds_eq stored).1]
        exact gathered.roster planted.apart distinct hrow
  case entered =>
    intro path
    rw [gathered.entered path]
    exact Option.or_none
  case logins =>
    intro login
    rw [← s.logins_eq, planted.mem_logins]
    exact exists_congr fun i => find_eq_ok
  case users =>
    intro r hr u hu
    obtain ⟨user, stored, made⟩ := planted.user (Seed.mem_steps_user_iff.2 ⟨r, hr, hu, rfl⟩)
    refine ⟨user, stored, made, ?_⟩
    rw [(run.groupIds_eq stored).1, gathered.joined planted.apart made.named,
      eraseDups_mentions distinctRows]
  case masks => exact fun i c => Seed.accessMap_of_work fresh work i c

theorem Seed.Acceptable.reorder (h : s.Acceptable) {grants : List GrantSeed}
    (same : grants.Perm s.grants) : ({ s with grants := grants } : Seed).Acceptable :=
  ⟨h.paths, h.logins, h.members, h.images, fun g hg => h.grants g (same.mem_iff.1 hg)⟩

/-- The order of the grants plays no part. -/
theorem Seed.sow_reorder (fresh : Function.Injective e.ids) (hw : s.sow e .empty = (w, none))
    {grants : List GrantSeed} (same : grants.Perm s.grants) :
    ∃ v, ({ s with grants := grants } : Seed).sow e .empty = (v, none) ∧ v.index = w.index ∧
      v.store.accessMap = w.store.accessMap := by
  have acceptable := (sow_completes_iff fresh s).1 (congrArg Prod.snd hw)
  obtain ⟨v, hv⟩ : ∃ v, ({ s with grants := grants } : Seed).sow e .empty = (v, none) :=
    ⟨_, Prod.ext rfl ((sow_completes_iff fresh _).2 (acceptable.reorder same))⟩
  -- up to the grants the work is the same, and from there on the index does not change
  obtain ⟨x, realms, last⟩ := Sowing.run_append_inv hw
  obtain ⟨x', realms', last'⟩ := Sowing.run_append_inv hv
  obtain rfl : x' = x := congrArg Prod.fst (realms'.symm.trans realms)
  obtain ⟨log, given⟩ := Sowing.work_of_run last
  obtain ⟨log', given'⟩ := Sowing.work_of_run last'
  have index : v.index = w.index := given'.grants.1.trans given.grants.1.symm
  obtain ⟨_, work⟩ := Sowing.work_of_run hw
  obtain ⟨_, work'⟩ := Sowing.work_of_run hv
  refine ⟨v, hv, index, funext fun i => funext fun c => ?_⟩
  rw [accessMap_of_work fresh work, accessMap_of_work fresh work', index, maskFor?_of_perm same]

end Whole

/-- A seed is carried out in full on an empty store exactly when it is acceptable.  Then there
    are as many resources as it declares, every resource is found under its path with its name
    and its kind and under what encloses it, every group in its realm with its description and
    the users that it lists, and every user in its realm with the groups that list it; a grant
    is held exactly by the pairs that grants of the seed are about, with all permissions of
    these grants, in whatever order they are written down. -/
theorem sow_realizes {e : Supply} (fresh : Function.Injective e.ids) (s : Seed) :
    ((s.sow e .empty).2 = none ↔ s.Acceptable) ∧
    ∀ w, s.sow e .empty = (w, none) →
      (∃ ids, s.Realized e w ids) ∧
      ∀ grants, grants.Perm s.grants →
        ∃ v, ({ s with grants := grants } : Seed).sow e .empty = (v, none) ∧ v.index = w.index ∧
          v.store.accessMap = w.store.accessMap := by
  refine ⟨s.sow_completes_iff fresh, fun w hw => ⟨?_, fun grants same => ?_⟩⟩
  · obtain ⟨log, work⟩ := Sowing.work_of_run hw
    exact realized_of_work fresh work
  · exact s.sow_reorder fresh hw same

/-- The sample is acceptable, and its three resources are made. -/
theorem sow_realizes_sample :
    Function.Injective Supply.sample.ids ∧ Seed.sample.Acceptable ∧
      ∃ w ids, Seed.sample.sow .sample .empty = (w, none) ∧ Seed.sample.Realized .sample w ids ∧
        w.store.resourceCount = 3 := by
  have carried : (Seed.sample.sow .sample .empty).2 = none := by decide
  obtain ⟨acceptable, made⟩ := sow_realizes Supply.sample_injective Seed.sample
  obtain ⟨⟨ids, realized⟩, _⟩ := made _ (Prod.ext rfl carried)
  exact ⟨Supply.sample_injective, acceptable.1 carried, _, ids, Prod.ext rfl carried, realized,
    realized.count⟩

end AccessControl
