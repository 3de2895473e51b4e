/-
  AccessControl/Proofs/Seed/Addresses.lean
  ========================================
  **What is found under a name is what was declared under it.**

  Names of a seed are texts put together with slashes, and parts of them may have slashes too.
  What keeps them apart is that the index refuses a path that is in use and the store a login.
  So each resource is found under its path and under no other, and each user under its login.
  Nobody looks whether the path of a group is in use.  If it is not, the group is found under it
  as well.

  Two things limit this.  The object of a check is written with `user:` in front if it is a user,
  and so a resource is out of reach if its path begins that way.  And of several groups with one
  path only one can be found under it (`ambiguous_seed`).

  An object is known here by the id that was drawn when its declaration was carried out.

  ## Main definitions

  * `MarksUser`: the object of a check is a user;
  * `Sowing.given`, `Seed.given`: the names that are given, with the ids that are drawn for them;
  * `Seed.Once`: only one thing is declared under a name.

  ## Main statements

  * `SeedIndex.target_eq_ok`: what a target is;
  * `Sowing.id?_of_given`, `Sowing.given_of_id?`: the index and the ids that were drawn;
  * `Seed.held_iff`: which grants a pair has its permissions from;
  * `seed_addresses`: what is found under which name.
-/
import AccessControl.Proofs.Seed.Structure

namespace AccessControl

/-! ## 1. Targets -/

/-- The text says that it is about a user. -/
def MarksUser (raw : String) : Prop := SeedIndex.userMark <+: raw.toList

theorem toList_marked (login : String) :
    ("user:" ++ login).toList = SeedIndex.userMark ++ login.toList := String.toList_append

theorem marksUser_iff {raw : String} : MarksUser raw ↔ ∃ login, raw = "user:" ++ login := by
  constructor
  · rintro ⟨rest, same⟩
    refine ⟨String.ofList rest, ?_⟩
    apply String.toList_injective
    rw [toList_marked, String.toList_ofList, same]
  · rintro ⟨login, rfl⟩
    rw [MarksUser, toList_marked]
    exact List.prefix_append _ _

namespace SeedIndex

variable {x : SeedIndex} {i : ObjectId}

theorem target_user (x : SeedIndex) (login : String) :
    x.target ("user:" ++ login) = x.user login := by
  rw [target, toList_marked, if_pos (by simp), List.drop_left, String.ofList_toList]

theorem target_resource {raw : String} (other : ¬MarksUser raw) :
    x.target raw = x.resource raw := by
  rw [target, if_neg]
  rwa [List.isPrefixOf_iff_prefix]

/-- A target is the user with a login that is marked, or a resource under a path that is not. -/
theorem target_eq_ok {raw : String} :
    x.target raw = .ok i ↔
      (∃ login, raw = "user:" ++ login ∧ x.id? (.user login) = some i) ∨
        ¬MarksUser raw ∧ x.id? (.resource raw) = some i := by
  by_cases marked : MarksUser raw
  · obtain ⟨login, rfl⟩ := marksUser_iff.1 marked
    rw [target_user, user, find_eq_ok]
    constructor
    · intro known
      exact Or.inl ⟨login, rfl, known⟩
    · rintro (⟨other, same, known⟩ | ⟨unmarked, -⟩)
      · rw [← String.append_right_inj "user:" |>.1 same] at known
        exact known
      · exact absurd marked unmarked
  · rw [target_resource marked, resource, find_eq_ok]
    constructor
    · intro known
      exact Or.inr ⟨marked, known⟩
    · rintro (⟨login, rfl, -⟩ | ⟨-, known⟩)
      · exact absurd (marksUser_iff.2 ⟨login, rfl⟩) marked
      · exact known

namespace Apart

variable {a b : SeedName} {path login raw : String}

theorem only (apart : x.Apart) (known : x.id? a = some i) : x.id? b = some i ↔ b = a := by
  constructor
  · intro again
    exact apart b a i again known
  · rintro rfl
    exact known

/-- A resource is the target under its path, unless that marks a user. -/
theorem target_of_resource (apart : x.Apart) (known : x.id? (.resource path) = some i) :
    x.target raw = .ok i ↔ raw = path ∧ ¬MarksUser raw := by
  rw [target_eq_ok]
  constructor
  · rintro (⟨login, -, other⟩ | ⟨unmarked, own⟩)
    · cases (apart.only known).1 other
    · cases (apart.only known).1 own
      exact ⟨rfl, unmarked⟩
  · rintro ⟨rfl, unmarked⟩
    exact Or.inr ⟨unmarked, known⟩

theorem target_of_user (apart : x.Apart) (known : x.id? (.user login) = some i) :
    x.target raw = .ok i ↔ raw = "user:" ++ login := by
  rw [target_eq_ok]
  constructor
  · rintro (⟨other, rfl, own⟩ | ⟨-, other⟩)
    · cases (apart.only known).1 own
      rfl
    · cases (apart.only known).1 other
  · rintro rfl
    exact Or.inl ⟨login, rfl, known⟩

end Apart

end SeedIndex

/-! ## 2. Names and ids -/

/-- The names that steps give, each with the id that is drawn for what it names. -/
def Sowing.given (e : Supply) (w : Sowing) : List SeedStep → List (SeedName × ObjectId)
  | [] => []
  | step :: rest =>
    (step.name?.map fun a => (a, e.ids w.taken)).toList ++ given e (step.perform e w).1 rest

/-- The names that a seed gives on an empty store, with their ids. -/
def Seed.given (s : Seed) (e : Supply) : List (SeedName × ObjectId) :=
  Sowing.given e ⟨.empty, .empty, 0⟩ s.steps

/-- At most one thing is declared under the name. -/
def Seed.Once (s : Seed) (a : SeedName) : Prop := (s.steps.filterMap SeedStep.name?).count a ≤ 1

namespace Sowing

variable {e : Supply} {w v : Sowing} {steps : List SeedStep} {a : SeedName} {i : ObjectId}

theorem mem_given_cons {step : SeedStep} {rest : List SeedStep} :
    (a, i) ∈ given e w (step :: rest) ↔
      (step.name? = some a ∧ i = e.ids w.taken) ∨ (a, i) ∈ given e (step.perform e w).1 rest := by
  rw [given, List.mem_append, Option.mem_toList, Option.map_eq_some_iff]
  refine or_congr_left ⟨?_, ?_⟩
  · rintro ⟨b, name, same⟩
    cases same
    exact ⟨name, rfl⟩
  · rintro ⟨name, rfl⟩
    exact ⟨a, name, rfl⟩

theorem id?_of_run (h : w.run e steps = (v, none)) (absent : a ∉ steps.filterMap SeedStep.name?) :
    v.index.id? a = w.index.id? a := by
  induction steps generalizing w with
  | nil =>
    cases h
    rfl
  | cons step rest ih =>
    obtain ⟨x, c, -, first, later⟩ := run_cons_inv h
    rcases name : step.name? with _ | b
    · rw [List.filterMap_cons_none name] at absent
      rw [ih later absent, first.unnamed name]
    · rw [List.filterMap_cons_some name, List.mem_cons, not_or] at absent
      rw [ih later absent.2, (first.names b name).2.other absent.1]

/-- A name that is given once has the id that was drawn for it. -/
theorem id?_of_given (h : w.run e steps = (v, none))
    (once : (steps.filterMap SeedStep.name?).count a ≤ 1) (hi : (a, i) ∈ given e w steps) :
    v.index.id? a = some i := by
  induction steps generalizing w with
  | nil => cases hi
  | cons step rest ih =>
    obtain ⟨x, c, rfl, first, later⟩ := run_cons_inv h
    rcases mem_given_cons.1 hi with ⟨name, rfl⟩ | hi
    · rw [List.filterMap_cons_some name, List.count_cons_self] at once
      have absent : a ∉ rest.filterMap SeedStep.name? := List.count_eq_zero.1 (by omega)
      rw [id?_of_run later absent]
      exact (first.names a name).2.self
    · refine ih later ?_ hi
      rcases name : step.name? with _ | b
      · rwa [List.filterMap_cons_none name] at once
      · rw [List.filterMap_cons_some name] at once
        exact Nat.le_trans List.count_le_count_cons once

/-- What is in the index was there before, or was drawn. -/
theorem given_of_id? (h : w.run e steps = (v, none)) (known : v.index.id? a = some i) :
    w.index.id? a = some i ∨ (a, i) ∈ given e w steps := by
  induction steps generalizing w with
  | nil =>
    cases h
    exact Or.inl known
  | cons step rest ih =>
    obtain ⟨x, c, rfl, first, later⟩ := run_cons_inv h
    rcases ih later with before | drawn
    · rcases first.id?_eq_some before with earlier | ⟨name, same, -⟩
      · exact Or.inl earlier
      · exact Or.inr (mem_given_cons.2 (Or.inl ⟨name, same⟩))
    · exact Or.inr (mem_given_cons.2 (Or.inr drawn))

theorem taken_of_given (h : w.run e steps = (v, none)) (hi : (a, i) ∈ given e w steps) :
    ∃ n, w.taken ≤ n ∧ i = e.ids n := by
  induction steps generalizing w with
  | nil => cases hi
  | cons step rest ih =>
    obtain ⟨x, c, rfl, first, later⟩ := run_cons_inv h
    rcases mem_given_cons.1 hi with ⟨-, rfl⟩ | hi
    · exact ⟨w.taken, Nat.le_refl _, rfl⟩
    · obtain ⟨n, le, rfl⟩ := ih later hi
      rw [first.taken] at le
      exact ⟨n, by omega, rfl⟩

theorem nodup_given (fresh : Function.Injective e.ids) (h : w.run e steps = (v, none)) :
    ((given e w steps).map Prod.snd).Nodup := by
  induction steps generalizing w with
  | nil => exact List.nodup_nil
  | cons step rest ih =>
    obtain ⟨x, c, rfl, first, later⟩ := run_cons_inv h
    rw [given]
    rcases name : step.name? with _ | a
    · exact ih later
    · refine List.nodup_cons.2 ⟨?_, ih later⟩
      intro again
      obtain ⟨⟨b, i⟩, hi, same⟩ := List.mem_map.1 again
      obtain ⟨n, le, rfl⟩ := taken_of_given later hi
      -- the first step has taken its id
      rw [first.taken, (first.names a name).1, ← fresh same] at le
      exact absurd le (by simp)

end Sowing

namespace Seed

variable {s : Seed} {e : Supply} {w : Sowing} {a : SeedName} {i c : ObjectId}

theorem getD_beq_iff {α : Type} [DecidableEq α] {x : α} {o : Option α} :
    (o.map (· == x)).getD false = true ↔ o = some x := by
  cases o <;> simp

theorem count_names {α : Type} [DecidableEq α] {f : SeedStep → Option α} {name : α → SeedName}
    (reads : ∀ step x, f step = some x ↔ step.name? = some (name x)) (steps : List SeedStep)
    (x : α) :
    (steps.filterMap SeedStep.name?).count (name x) = (steps.filterMap f).count x := by
  rw [List.count, List.count, List.countP_filterMap, List.countP_filterMap]
  refine List.countP_congr fun step _ => ?_
  rw [getD_beq_iff, getD_beq_iff]
  exact (reads step x).symm

theorem once_resource (acceptable : s.Acceptable) (path : String) : s.Once (.resource path) := by
  rw [Once, count_names (fun _ _ => SeedStep.path?_eq_some), s.paths_eq]
  exact List.nodup_iff_count_le_one.1 acceptable.paths path

theorem once_user (acceptable : s.Acceptable) (login : String) : s.Once (.user login) := by
  rw [Once, count_names (fun _ _ => SeedStep.login?_eq_some), s.logins_eq]
  exact List.nodup_iff_count_le_one.1 acceptable.logins login

theorem groupPaths_eq_map (s : Seed) : s.groupPaths = s.groups.map SeedGroup.path := by
  simp [groupPaths, groups, RealmSeed.seedGroups, List.map_flatMap, SeedGroup.path,
    Function.comp_def]

theorem once_group_iff {path : String} :
    s.Once (.group path) ↔ (s.groups.map SeedGroup.path).count path ≤ 1 := by
  rw [Once, count_names (fun _ _ => groupPath?_eq_some), s.groupPaths_eq, groupPaths_eq_map]

theorem named_iff (sown : s.sow e .empty = (w, none)) (once : s.Once a) :
    w.index.id? a = some i ↔ (a, i) ∈ s.given e := by
  constructor
  · intro known
    rcases Sowing.given_of_id? sown known with before | drawn
    · cases a <;> cases before
    · exact drawn
  · exact Sowing.id?_of_given sown once

end Seed

/-! ## 3. Groups and grants -/

/-- A group whose path no other one has is the last one with the path. -/
theorem lastUnder_of_once {rows : List (SeedGroup × ObjectId)} {g : SeedGroup} {k : ObjectId}
    (hrow : (g, k) ∈ rows) (once : (rows.map fun row => row.1.path).count g.path ≤ 1) :
    lastUnder rows g.path = some k := by
  have own : (g, k) ∈ rows.filter fun row => row.1.path = g.path :=
    List.mem_filter.2 ⟨hrow, decide_eq_true rfl⟩
  have length : (rows.filter fun row => row.1.path = g.path).length ≤ 1 := by
    rw [List.count, List.countP_map, List.countP_eq_length_filter] at once
    exact once
  have alone : (rows.filter fun row => row.1.path = g.path).length = 1 :=
    Nat.le_antisymm length (List.length_pos_of_mem own)
  obtain ⟨row, rest⟩ := List.length_eq_one_iff.1 alone
  rw [rest, List.mem_singleton] at own
  rw [lastUnder, rest, ← own]
  rfl

section Whole

variable {s : Seed} {e : Supply} {w : Sowing} {ids : List ObjectId}

theorem Seed.Realized.group (realized : s.Realized e w ids) {g : SeedGroup} (hg : g ∈ s.groups)
    (once : (s.groups.map SeedGroup.path).count g.path ≤ 1) :
    ∃ k group, w.store.parties.get? k = some (.group group) ∧ g.Made w.index group ∧
      w.index.id? (.group g.path) = some k := by
  obtain ⟨lengths, made⟩ := List.forall₂_iff_zip.1 realized.groups
  have names : (s.groups.zip ids).map Prod.fst = s.groups :=
    List.map_fst_zip (Nat.le_of_eq lengths)
  rw [← names] at hg
  obtain ⟨⟨_, k⟩, hrow, rfl⟩ := List.mem_map.1 hg
  obtain ⟨group, stored, own⟩ := made hrow
  refine ⟨k, group, stored, own, ?_⟩
  rw [realized.entered]
  refine lastUnder_of_once hrow ?_
  rwa [← names, List.map_map] at once

theorem Seed.contains_maskFor? {x : SeedIndex} {i c : ObjectId} {p : Permission} :
    (∃ m, s.maskFor? x i c = some m ∧ m.contains p = true) ↔
      ∃ g ∈ s.grants, g.Resolves x i c ∧ p ∈ g.permissions := by
  rw [Seed.maskFor?]
  constructor
  · rintro ⟨m, held, contains⟩
    split at held
    · cases held
    · cases held
      rw [Mask.contains_of, decide_eq_true_eq, List.mem_flatMap] at contains
      obtain ⟨g, hg, hp⟩ := contains
      obtain ⟨listed, resolves⟩ := List.mem_filter.1 hg
      exact ⟨g, listed, of_decide_eq_true resolves, hp⟩
  · rintro ⟨g, hg, resolves, hp⟩
    have here : g ∈ s.grants.filter fun g => g.Resolves x i c :=
      List.mem_filter.2 ⟨hg, decide_eq_true resolves⟩
    refine ⟨_, if_neg (List.ne_nil_of_mem here), ?_⟩
    rw [Mask.contains_of, decide_eq_true_eq, List.mem_flatMap]
    exact ⟨g, here, hp⟩

theorem GrantSeed.resolves_iff {x : SeedIndex} (apart : x.Apart) {path : String} {a : SeedName}
    {i c : ObjectId} (hi : x.id? (.resource path) = some i) (hc : x.id? a = some c)
    (g : GrantSeed) : g.Resolves x i c ↔ g.resource = path ∧ g.holder? = some a := by
  rw [GrantSeed.Resolves, SeedIndex.resource, find_eq_ok, party_eq_ok]
  constructor
  · rintro ⟨resource, b, holder, party⟩
    have same : SeedName.resource g.resource = .resource path := (apart.only hi).1 resource
    rw [(apart.only hc).1 party] at holder
    exact ⟨SeedName.resource.inj same, holder⟩
  · rintro ⟨rfl, holder⟩
    exact ⟨hi, a, holder, hc⟩

/-- The permissions of a pair are those of the grants that name it. -/
theorem Seed.held_iff (realized : s.Realized e w ids) (apart : w.index.Apart) {path : String}
    {a : SeedName} {i c : ObjectId} (hi : w.index.id? (.resource path) = some i)
    (hc : w.index.id? a = some c) (p : Permission) :
    (∃ x, w.store.entryFor? i c = some x ∧ x.mask.contains p = true) ↔
      ∃ g ∈ s.grants, g.resource = path ∧ g.holder? = some a ∧ p ∈ g.permissions := by
  have masks : (∃ x, w.store.entryFor? i c = some x ∧ x.mask.contains p = true) ↔
      ∃ m, s.maskFor? w.index i c = some m ∧ m.contains p = true := by
    rw [← realized.masks]
    simp
  rw [masks, Seed.contains_maskFor?]
  simp only [GrantSeed.resolves_iff apart hi hc, and_assoc]

end Whole

/-! ## 4. What is found under which name -/

/-- After a seed was carried out on an empty store, each resource that it declares is found under
    its path and under no other, as it was declared and with the id that was drawn for it; it is
    the object of a check that names the path, unless the path begins as if it were about a user,
    and of no other check.  Each user is found under its login and no other, and is the object of
    the check that names the login with `user:` in front, and of no other.  Each group whose path
    no other group has is found under it and under no other.  All ids are different.  The
    permissions of a resource and of a party whose name is its own are those of the grants that
    name both. -/
theorem seed_addresses {e : Supply} (fresh : Function.Injective e.ids) {s : Seed} {w : Sowing}
    (sown : s.sow e .empty = (w, none)) :
    (∀ n ∈ s.nodes, ∃ r, w.store.resources.get? r.id = some r ∧ n.Made w.index r ∧
      (.resource n.path, r.id) ∈ s.given e ∧
      (∀ path, w.index.resource path = .ok r.id ↔ path = n.path) ∧
      ∀ raw, w.index.target raw = .ok r.id ↔ raw = n.path ∧ ¬MarksUser raw) ∧
    (∀ realm ∈ s.realms, ∀ u ∈ realm.users, ∃ user,
      w.store.parties.get? user.info.id = some (.user user) ∧ u.Made realm.name e w.index user ∧
      (.user u.login, user.info.id) ∈ s.given e ∧
      (∀ login, w.index.user login = .ok user.info.id ↔ login = u.login) ∧
      ∀ raw, w.index.target raw = .ok user.info.id ↔ raw = "user:" ++ u.login) ∧
    (∀ g ∈ s.groups, (s.groups.map SeedGroup.path).count g.path ≤ 1 → ∃ k group,
      w.store.parties.get? k = some (.group group) ∧ g.Made w.index group ∧
      (.group g.path, k) ∈ s.given e ∧ ∀ path, w.index.group path = .ok k ↔ path = g.path) ∧
    ((s.given e).map Prod.snd).Nodup ∧
    ∀ path a i c, s.Once a → (.resource path, i) ∈ s.given e → (a, c) ∈ s.given e → ∀ p,
      (∃ x, w.store.entryFor? i c = some x ∧ x.mask.contains p = true) ↔
        ∃ g ∈ s.grants, g.resource = path ∧ g.holder? = some a ∧ p ∈ g.permissions := by
  have acceptable := (s.sow_completes_iff fresh).1 (congrArg Prod.snd sown)
  obtain ⟨log, work⟩ := Sowing.work_of_run sown
  obtain ⟨planted, -⟩ := work.planted fresh (.start e)
  have apart := planted.apart
  obtain ⟨ids, realized⟩ := realized_of_work fresh work
  refine ⟨?nodes, ?users, ?groups, Sowing.nodup_given fresh sown, ?grants⟩
  case nodes =>
    intro n hn
    obtain ⟨r, stored, made⟩ := realized.nodes n hn
    refine ⟨r, stored, made, (Seed.named_iff sown (Seed.once_resource acceptable _)).1 made.named,
      ?_, fun raw => apart.target_of_resource made.named⟩
    intro path
    rw [SeedIndex.resource, find_eq_ok]
    exact (apart.only made.named).trans (SeedName.resource.injEq ..).to_iff
  case users =>
    intro realm hrealm u hu
    obtain ⟨user, stored, made, -⟩ := realized.users realm hrealm u hu
    refine ⟨user, stored, made, (Seed.named_iff sown (Seed.once_user acceptable _)).1 made.named,
      ?_, fun raw => apart.target_of_user made.named⟩
    intro login
    rw [SeedIndex.user, find_eq_ok]
    exact (apart.only made.named).trans (SeedName.user.injEq ..).to_iff
  case groups =>
    intro g hg once
    obtain ⟨k, group, stored, made, named⟩ := realized.group hg once
    refine ⟨k, group, stored, made, (Seed.named_iff sown (Seed.once_group_iff.2 once)).1 named, ?_⟩
    intro path
    rw [SeedIndex.group, find_eq_ok]
    exact (apart.only named).trans (SeedName.group.injEq ..).to_iff
  case grants =>
    intro path a i c once hi hc p
    exact Seed.held_iff realized apart
      ((Seed.named_iff sown (Seed.once_resource acceptable path)).2 hi)
      ((Seed.named_iff sown once).2 hc) p

/-- The repository of the sample is the object of the check that names its path. -/
theorem seed_addresses_sample :
    Function.Injective Supply.sample.ids ∧ ∃ w, Seed.sample.sow .sample .empty = (w, none) ∧
      ∃ r, w.store.resources.get? r.id = some r ∧ r.name = "app" ∧
        w.index.target "acme/app" = .ok r.id := by
  have carried : (Seed.sample.sow .sample .empty).2 = none := by decide
  have sown : Seed.sample.sow .sample .empty = ((Seed.sample.sow .sample .empty).1, none) :=
    Prod.ext rfl carried
  obtain ⟨nodes, -⟩ := seed_addresses Supply.sample_injective sown
  have declared : (⟨"acme/app", "app", none, some "acme", .repository .empty⟩ : SeedNode) ∈
      Seed.sample.nodes := List.mem_cons_of_mem _ (List.mem_cons_self ..)
  obtain ⟨r, stored, made, -, -, target⟩ := nodes _ declared
  have unmarked : ¬MarksUser "acme/app" := by
    unfold MarksUser
    decide
  exact ⟨Supply.sample_injective, _, sown, r, stored, made.name, (target _).2 ⟨rfl, unmarked⟩⟩

/-- A realm whose name begins like the target of a user, with two groups of one name. -/
def Seed.ambiguous : Seed where
  realms := [⟨"user:ann", none, [], [⟨"devs", none, []⟩, ⟨"devs", none, []⟩], []⟩]
  grants := []

/-- Such a seed is carried out, but the realm is not the object of the check that names its path,
    and a group that was made is not the one that is found under its path. -/
theorem ambiguous_seed :
    ∃ w, Seed.ambiguous.sow .sample .empty = (w, none) ∧
      (∃ n ∈ Seed.ambiguous.nodes, ∃ r, w.store.resources.get? r.id = some r ∧ n.Made w.index r ∧
        w.index.target n.path ≠ .ok r.id) ∧
      ∃ g ∈ Seed.ambiguous.groups, ∃ k group, (.group g.path, k) ∈ Seed.ambiguous.given .sample ∧
        w.store.parties.get? k = some (.group group) ∧ g.Made w.index group ∧
        w.index.group g.path ≠ .ok k := by
  have carried : (Seed.ambiguous.sow .sample .empty).2 = none := by decide
  have sown : Seed.ambiguous.sow .sample .empty = ((Seed.ambiguous.sow .sample .empty).1, none) :=
    Prod.ext rfl carried
  obtain ⟨log, work⟩ := Sowing.work_of_run sown
  obtain ⟨ids, realized⟩ := realized_of_work Supply.sample_injective work
  refine ⟨_, sown, ?_, ?_⟩
  · have realm : (⟨"user:ann", "user:ann", none, none, .realm .empty⟩ : SeedNode) ∈
        Seed.ambiguous.nodes := List.mem_cons_self ..
    obtain ⟨r, stored, made⟩ := realized.nodes _ realm
    exact ⟨_, realm, r, stored, made, nofun⟩
  · refine ⟨_, List.mem_cons_self .., Supply.sample.ids 1, _, ?_, rfl, ⟨rfl, rfl, rfl, rfl⟩, ?_⟩
    · exact List.mem_cons_of_mem _ (List.mem_cons_self ..)
    · decide

end AccessControl
