/-
  AccessControl/Proofs/Seed/Gathered.lean
  =======================================
  **The groups that a seed makes, and who joins them.**

  Two groups may have the same path, so a group is not known by its path but by its place among
  all groups of the seed.  The index still leads each member to its own group: members are added
  right after their group was made, and until then no other group has taken the path.

  What a row of steps gathers is told from its own deeds alone, so that rows can be looked at one
  after the other and put together: a group with its members, then all rows of a realm, then
  those of the seed.

  ## Main definitions

  * `Sowing.Work`: a row of steps with the deeds that it consists of;
  * `SeedGroup`, `Seed.groups`: the groups of a seed;
  * `listing`, `lastUnder`: the groups that list a login, and the last one with a path;
  * `enlisted`: all members that groups list;
  * `Gathered`: the groups that were made, their members, and their places in the index.

  ## Main statements

  * `Sowing.Work.planted`: what is known of a seed is known after a row of steps;
  * `gathered_group`: a group gets the members that it lists;
  * `Gathered.joined`, `Gathered.roster`: both sides of these memberships;
  * `Gathers.append`, `Gathers.flatMap`: rows of steps one after the other;
  * `gathers_seed`: what all steps of a seed gather.
-/
import AccessControl.Proofs.Seed.Acceptance
import Mathlib.Data.List.Forall2
import Mathlib.Data.List.Induction

namespace AccessControl

/-! ## 1. Rows of steps -/

/-- Steps that were carried out one after another, and the deeds that they were. -/
inductive Sowing.Work (e : Supply) : Sowing → List SeedStep → List Deed → Sowing → Prop
  | stay {w : Sowing} : Work e w [] [] w
  | more {w x v : Sowing} {step : SeedStep} {steps : List SeedStep} {c : Change}
      {log : List Deed} (first : step.Done e w x c) (rest : Work e x steps log v) :
      Work e w (step :: steps) (⟨c, true⟩ :: log) v

namespace Sowing

variable {e : Supply} {w v : Sowing} {steps : List SeedStep} {log : List Deed}

theorem work_of_run (h : w.run e steps = (v, none)) : ∃ log, w.Work e steps log v := by
  induction steps generalizing w with
  | nil =>
    cases h
    exact ⟨[], .stay⟩
  | cons step rest ih =>
    obtain ⟨x, c, -, first, more⟩ := run_cons_inv h
    obtain ⟨log, later⟩ := ih more
    exact ⟨_, .more first later⟩

theorem Work.append_inv {first second : List SeedStep} (h : w.Work e (first ++ second) log v) :
    ∃ x log₁ log₂, log = log₁ ++ log₂ ∧ w.Work e first log₁ x ∧ x.Work e second log₂ v := by
  induction first generalizing w log with
  | nil => exact ⟨w, [], log, rfl, .stay, h⟩
  | cons step rest ih =>
    obtain _ | ⟨done, later⟩ := h
    obtain ⟨x, log₁, log₂, rfl, before, after⟩ := ih later
    exact ⟨x, _, log₂, rfl, .more done before, after⟩

/-- What is known of a seed is known after a row of steps. -/
theorem Work.planted (fresh : Function.Injective e.ids) (h : w.Work e steps log v)
    {done : List SeedStep} {before : List Deed} (planted : Planted e done before w) :
    Planted e (done ++ steps) (before ++ log) v ∧ w.index.Within v.index := by
  induction h generalizing done before with
  | stay =>
    rw [List.append_nil, List.append_nil]
    exact ⟨planted, fun _ _ _ known => known⟩
  | more first rest ih =>
    obtain ⟨later, within⟩ := ih (planted.extend first fresh)
    rw [List.append_cons, List.append_cons before]
    exact ⟨later, (first.within planted.housed).trans within⟩

theorem Work.toRun (fresh : Function.Injective e.ids) (h : w.Work e steps log v) :
    Run ⟨w.store, e.drawn w.taken⟩ log ⟨v.store, e.drawn v.taken⟩ := by
  induction h with
  | stay => exact .stay
  | more first _ ih => exact (Run.more .stay (first.toStep fresh)).trans ih

theorem Work.births_length (h : w.Work e steps log v) :
    (births log).length = (steps.filterMap SeedStep.node?).length := by
  induction h with
  | stay => rfl
  | @more w x v step steps c log first rest ih =>
    have one : (Deed.born? ⟨c, true⟩).toList.length = step.node?.toList.length := by
      obtain ⟨asks, _, _, _, _, _⟩ := first
      cases asks <;> rfl
    rw [births, List.filterMap_cons, List.filterMap_cons]
    cases hb : Deed.born? ⟨c, true⟩ <;> cases hn : step.node? <;> rw [hb, hn] at one <;>
      first | exact ih | exact congrArg Nat.succ ih | cases one

end Sowing

/-! ## 2. Groups -/

/-- A group as a seed declares it, with the name of its realm. -/
structure SeedGroup extends GroupSeed where
  home : String

def SeedGroup.path (g : SeedGroup) : String := seedPath g.home g.name

def RealmSeed.seedGroups (r : RealmSeed) : List SeedGroup := r.groups.map (⟨·, r.name⟩)

/-- All groups that a seed declares, in the order of the file. -/
def Seed.groups (s : Seed) : List SeedGroup := s.realms.flatMap RealmSeed.seedGroups

section Rows

variable (rows : List (SeedGroup × ObjectId))

/-- The ids of the groups that list a login. -/
def listing (login : String) : List ObjectId :=
  (rows.filter fun row => login ∈ row.1.members).map Prod.snd

/-- The ids of the groups that list a login, as often as they list it. -/
def mentions (login : String) : List ObjectId :=
  rows.flatMap fun row => (row.1.members.filter (· = login)).map fun _ => row.2

/-- All members that the groups list: whom an index has under the login, and the group. -/
def enlisted (x : SeedIndex) : List (Option ObjectId × ObjectId) :=
  rows.flatMap fun row => row.1.members.map fun login => (x.id? (.user login), row.2)

/-- The id of the last group with a path. -/
def lastUnder (path : String) : Option ObjectId :=
  ((rows.filter fun row => row.1.path = path).getLast?).map Prod.snd

variable {rows}

theorem mem_of_mem_mentions {login : String} {k : ObjectId} (h : k ∈ mentions rows login) :
    k ∈ rows.map Prod.snd := by
  obtain ⟨row, hrow, hk⟩ := List.mem_flatMap.1 h
  obtain ⟨_, _, rfl⟩ := List.mem_map.1 hk
  exact List.mem_map_of_mem hrow

/-- A row with other names for the same things has its repetitions at the same places. -/
theorem map_eraseDups {α β : Type} [BEq α] [LawfulBEq α] [BEq β] [LawfulBEq β] {f : α → β}
    {l : List α} (apart : ∀ a ∈ l, ∀ b ∈ l, f a = f b → a = b) :
    (l.map f).eraseDups = l.eraseDups.map f := by
  induction l using List.reverseRecOn with
  | nil => rfl
  | append_singleton l a ih =>
    have shorter := ih fun b hb c hc => apart b (by simp [hb]) c (by simp [hc])
    have same : f a ∈ l.map f ↔ a ∈ l := by
      refine ⟨fun named => ?_, List.mem_map_of_mem⟩
      obtain ⟨b, hb, eq⟩ := List.mem_map.1 named
      rwa [← apart b (by simp [hb]) a (by simp) eq]
    rw [List.map_append, List.eraseDups_append, List.eraseDups_append, shorter, List.map_append]
    by_cases again : a ∈ l <;> simp [List.removeAll, again, same, List.eraseDups_cons]

theorem eraseDups_mentions (distinct : (rows.map Prod.snd).Nodup) (login : String) :
    (mentions rows login).eraseDups = listing rows login := by
  induction rows with
  | nil => rfl
  | cons row rest ih =>
    obtain ⟨new, distinct⟩ := List.nodup_cons.1 distinct
    rw [mentions, List.flatMap_cons, ← mentions, listing, List.filter_cons]
    by_cases listed : login ∈ row.1.members
    · -- whatever comes first is the group of this row, and it does not come later
      obtain ⟨others, more⟩ : ∃ others, (row.1.members.filter (· = login)) = login :: others := by
        rcases found : row.1.members.filter (· = login) with _ | ⟨first, others⟩
        · exact absurd (List.filter_eq_nil_iff.1 found login listed) (by simp)
        · have same : first ∈ row.1.members.filter (· = login) := found ▸ List.mem_cons_self ..
          obtain rfl : first = login := by simpa using (List.mem_filter.1 same).2
          exact ⟨others, rfl⟩
      have later : (others.map (fun _ => row.2) ++ mentions rest login).filter
          (fun k => !k == row.2) = mentions rest login := by
        rw [List.filter_append, List.filter_eq_nil_iff.2 (by simp), List.nil_append]
        refine List.filter_eq_self.2 fun k hk => ?_
        have other : k ≠ row.2 := fun same => new (same ▸ mem_of_mem_mentions hk)
        simpa using other
      rw [more, List.map_cons, List.cons_append, List.eraseDups_cons, later, ih distinct,
        if_pos (decide_eq_true listed)]
      rfl
    · have nobody : row.1.members.filter (· = login) = [] :=
        List.filter_eq_nil_iff.2 fun other hother => by
          rintro same
          exact listed (of_decide_eq_true same ▸ hother)
      rw [nobody, List.map_nil, List.nil_append, ih distinct, if_neg (by simpa using listed)]
      rfl

theorem enlisted_under {x : SeedIndex} {g : SeedGroup} {k : ObjectId}
    (distinct : (rows.map Prod.snd).Nodup) (hrow : (g, k) ∈ rows) :
    ((enlisted rows x).filter fun m => m.2 = k).map Prod.fst =
      g.members.map fun login => x.id? (.user login) := by
  induction rows with
  | nil => cases hrow
  | cons row rest ih =>
    obtain ⟨new, distinct⟩ := List.nodup_cons.1 distinct
    rw [enlisted, List.flatMap_cons, ← enlisted, List.filter_append, List.map_append,
      List.filter_map]
    rcases List.mem_cons.1 hrow with rfl | later
    · -- nothing that comes later stands under this id
      have others : (enlisted rest x).filter (fun m => m.2 = k) = [] := by
        refine List.filter_eq_nil_iff.2 fun m hm => ?_
        obtain ⟨other, hother, hm⟩ := List.mem_flatMap.1 hm
        obtain ⟨_, _, rfl⟩ := List.mem_map.1 hm
        have apart : other.2 ≠ k := by
          rintro rfl
          exact new (List.mem_map.2 ⟨other, hother, rfl⟩)
        simpa using apart
      rw [others, List.filter_eq_self.2 (by simp)]
      simp
    · have apart : row.2 ≠ k := by
        rintro rfl
        exact new (List.mem_map.2 ⟨_, later, rfl⟩)
      rw [List.filter_eq_nil_iff.2 (by simp [apart]), ih distinct later]
      rfl

end Rows

/-! ## 3. What a row of steps gathers -/

def SeedGroup.MadeAs (g : SeedGroup) (e : Supply) (x : SeedIndex) (log : List Deed)
    (k : ObjectId) : Prop :=
  ∃ realmId, x.id? (.resource g.home) = some realmId ∧
    ⟨.createGroup k e.now realmId g.name g.description, true⟩ ∈ log

def groupsAmong (log : List Deed) : List ObjectId :=
  ((newcomers log).filter fun p => p.type = .group).map Party.id

theorem groupsAmong_append (log log' : List Deed) :
    groupsAmong (log ++ log') = groupsAmong log ++ groupsAmong log' := by
  simp [groupsAmong, newcomers, List.filterMap_append]

def Deed.membership? : Deed → Option (ObjectId × ObjectId)
  | ⟨.addUserToGroup i k, true⟩ => some (i, k)
  | _ => none

theorem filterMap_joined? (log : List Deed) (i : ObjectId) :
    log.filterMap (Deed.joined? i) =
      ((log.filterMap Deed.membership?).filter fun m => m.1 = i).map Prod.snd := by
  rw [List.filter_filterMap, List.map_filterMap]
  refine List.filterMap_congr fun d _ => ?_
  obtain ⟨c, _ | _⟩ := d <;> cases c <;> try rfl
  rw [Deed.joined?, Deed.membership?, Option.filter_some]
  split <;> simp_all

theorem filterMap_admitted? (log : List Deed) (k : ObjectId) :
    log.filterMap (Deed.admitted? k) =
      ((log.filterMap Deed.membership?).filter fun m => m.2 = k).map Prod.fst := by
  rw [List.filter_filterMap, List.map_filterMap]
  refine List.filterMap_congr fun d _ => ?_
  obtain ⟨c, _ | _⟩ := d <;> cases c <;> try rfl
  rw [Deed.admitted?, Deed.membership?, Option.filter_some]
  split <;> simp_all

/-- Groups were made, one after the other, and their members added; for the names of realms and
    users, an index stands by. -/
structure Gathered (e : Supply) (x : SeedIndex) (w : Sowing) (log : List Deed) (v : Sowing)
    (groups : List SeedGroup) (ids : List ObjectId) : Prop where
  made : List.Forall₂ (fun g k => g.MadeAs e x log k) groups ids
  came : groupsAmong log = ids
  members : (log.filterMap Deed.membership?).map (Prod.map some id) = enlisted (groups.zip ids) x
  entered : ∀ path, v.index.id? (.group path) =
    (lastUnder (groups.zip ids) path).or (w.index.id? (.group path))

section Gathering

variable {e : Supply} {x : SeedIndex} {w y v : Sowing} {log log' : List Deed}
  {groups groups' : List SeedGroup} {ids ids' : List ObjectId}

theorem Gathered.nothing : Gathered e x w [] w [] [] where
  made := .nil
  came := rfl
  members := rfl
  entered _ := rfl

theorem Gathered.append (h : Gathered e x w log y groups ids)
    (h' : Gathered e x y log' v groups' ids') :
    Gathered e x w (log ++ log') v (groups ++ groups') (ids ++ ids') := by
  have rows : (groups ++ groups').zip (ids ++ ids') = groups.zip ids ++ groups'.zip ids' :=
    List.zip_append h.made.length_eq
  refine ⟨?made, ?came, ?members, ?entered⟩
  case made =>
    refine List.rel_append (h.made.imp ?_) (h'.made.imp ?_)
    · rintro g k ⟨realmId, home, made⟩
      exact ⟨realmId, home, List.mem_append_left _ made⟩
    · rintro g k ⟨realmId, home, made⟩
      exact ⟨realmId, home, List.mem_append_right _ made⟩
  case came => rw [groupsAmong_append, h.came, h'.came]
  case members =>
    rw [List.filterMap_append, List.map_append, h.members, h'.members, rows]
    exact List.flatMap_append.symm
  case entered =>
    intro path
    rw [h'.entered, h.entered, rows, lastUnder, lastUnder, lastUnder, List.filter_append,
      List.getLast?_append, ← Option.or_assoc]
    congr 1
    cases ((groups'.zip ids').filter fun row => row.1.path = path).getLast? <;> rfl

def SeedStep.Solitary : SeedStep → Prop
  | .group .. | .member .. => False
  | _ => True

theorem SeedStep.Done.gathers_nothing {step : SeedStep} {c : Change} (hs : step.Done e w v c)
    (alone : step.Solitary) : Gathered e x w [⟨c, true⟩] v [] [] where
  made := .nil
  came := by
    obtain ⟨asks, _, _, _, _, _⟩ := hs
    cases asks <;> first | rfl | cases alone
  members := by
    obtain ⟨asks, _, _, _, _, _⟩ := hs
    cases asks <;> first | rfl | cases alone
  entered path := by
    rcases name : step.name? with _ | a
    · rw [hs.unnamed name]
      rfl
    · refine (hs.names a name).2.other ?_
      rintro rfl
      obtain ⟨_, _, _, rfl, _⟩ := SeedStep.name?_eq_group.1 name
      exact alone

theorem Sowing.Work.members {path : String} {k : ObjectId} {members : List String}
    (h : w.Work e (members.map (.member path)) log v)
    (known : w.index.id? (.group path) = some k) :
    v.index = w.index ∧ groupsAmong log = [] ∧
      (w.index.Within x → (log.filterMap Deed.membership?).map (Prod.map some id) =
        members.map fun login => (x.id? (.user login), k)) := by
  induction members generalizing w log with
  | nil =>
    cases h
    exact ⟨rfl, rfl, fun _ => rfl⟩
  | cons member rest ih =>
    obtain _ | ⟨first, later⟩ := h
    have unnamed := first.unnamed rfl
    obtain ⟨same, nobody, joined⟩ := ih later (unnamed ▸ known)
    have asks := first.asks
    rw [unnamed] at asks same joined
    cases asks with
    | @member _ _ i k' user known' =>
      obtain rfl : k' = k := Option.some.inj (known'.symm.trans known)
      refine ⟨same, nobody, fun within => ?_⟩
      rw [List.map_cons, within _ _ (.user member) user, ← joined within]
      rfl

/-- A group gets the members that it lists. -/
theorem Sowing.Work.gathered_group {home : String} {g : GroupSeed}
    (h : w.Work e (g.steps home) log v) (within : v.index.Within x) :
    ∃ k, Gathered e x w log v [⟨g, home⟩] [k] := by
  obtain _ | ⟨first, rest⟩ := h
  have names := (first.names _ rfl).2
  obtain ⟨same, nobody, joined⟩ := rest.members (x := x) names.self
  have asks := first.asks
  rw [← same] at asks names joined
  cases asks with
  | @group _ _ _ id realmId realm named =>
    obtain rfl : id = e.ids w.taken := Option.some.inj (named.symm.trans names.self)
    refine ⟨e.ids w.taken, ?made, ?came, ?members, ?entered⟩
    case made =>
      exact .cons ⟨realmId, within _ _ (.resource home) realm, List.mem_cons_self ..⟩ .nil
    case came => exact congrArg (e.ids w.taken :: ·) nobody
    case members => exact (joined within).trans (List.append_nil _).symm
    case entered =>
      intro path
      by_cases own : seedPath home g.name = path
      · subst own
        rw [names.self]
        simp [lastUnder, SeedGroup.path]
      · rw [names.other fun same => own (SeedName.group.inj same).symm]
        simp [lastUnder, SeedGroup.path, own]

variable {login : String} {i k : ObjectId} {g : SeedGroup}

/-- A user joins the groups that list it. -/
theorem Gathered.joined (h : Gathered e x w log v groups ids) (apart : x.Apart)
    (user : x.id? (.user login) = some i) :
    log.filterMap (Deed.joined? i) = mentions (groups.zip ids) login := by
  have pairs : log.filterMap (Deed.joined? i) =
      ((enlisted (groups.zip ids) x).filter fun m => m.1 = some i).map Prod.snd := by
    rw [filterMap_joined?, ← h.members, List.filter_map, List.map_map]
    simp [Function.comp_def]
  rw [pairs, enlisted, List.filter_flatMap, List.map_flatMap, mentions]
  refine List.flatMap_congr fun row _ => ?_
  rw [List.filter_map, List.map_map]
  refine congrArg (List.map _) (List.filter_congr fun other _ => ?_)
  refine decide_eq_decide.2 ⟨fun same => SeedName.user.inj (apart _ _ _ same user), ?_⟩
  rintro rfl
  exact user

theorem Gathered.admitted (h : Gathered e x w log v groups ids) (distinct : ids.Nodup)
    (hrow : (g, k) ∈ groups.zip ids) :
    (log.filterMap (Deed.admitted? k)).map some =
      g.members.map fun login => x.id? (.user login) := by
  have pairs : (log.filterMap (Deed.admitted? k)).map some =
      ((enlisted (groups.zip ids) x).filter fun m => m.2 = k).map Prod.fst := by
    rw [filterMap_admitted?, ← h.members, List.filter_map, List.map_map, List.map_map]
    simp [Function.comp_def]
  rw [pairs]
  refine enlisted_under ?_ hrow
  rwa [List.map_snd_zip (Nat.le_of_eq h.made.length_eq.symm)]

/-- A group lists its users in the order of its members, each at its first place. -/
theorem Gathered.roster (h : Gathered e x w log v groups ids) (apart : x.Apart)
    (distinct : ids.Nodup) (hrow : (g, k) ∈ groups.zip ids) :
    (log.filterMap (Deed.admitted? k)).eraseDups.map some =
      g.members.eraseDups.map fun login => x.id? (.user login) := by
  have admitted := h.admitted distinct hrow
  have known : ∀ login ∈ g.members, ∃ i, x.id? (.user login) = some i := by
    intro login listed
    have named : x.id? (.user login) ∈ (log.filterMap (Deed.admitted? k)).map some :=
      admitted ▸ List.mem_map_of_mem listed
    obtain ⟨i, _, eq⟩ := List.mem_map.1 named
    exact ⟨i, eq.symm⟩
  rw [← map_eraseDups fun _ _ _ _ => Option.some.inj, admitted]
  refine map_eraseDups fun a ha b _ same => ?_
  obtain ⟨i, user⟩ := known a ha
  exact SeedName.user.inj (apart _ _ _ user (same ▸ user))

end Gathering

/-! ## 4. Rows put together -/

/-- Whenever the steps are carried out, these are the groups that they make. -/
def Gathers (e : Supply) (steps : List SeedStep) (groups : List SeedGroup) : Prop :=
  ∀ ⦃done before w log v⦄, Planted e done before w → w.Work e steps log v →
    ∀ ⦃x : SeedIndex⦄, v.index.Within x → ∃ ids, Gathered e x w log v groups ids

section Putting

variable {e : Supply} {steps steps' : List SeedStep} {groups groups' : List SeedGroup}

theorem Gathers.nil : Gathers e [] [] := by
  intro done before w log v _ h x _
  cases h
  exact ⟨[], .nothing⟩

variable (fresh : Function.Injective e.ids)
include fresh

theorem Gathers.append (h : Gathers e steps groups) (h' : Gathers e steps' groups') :
    Gathers e (steps ++ steps') (groups ++ groups') := by
  intro done before w log v planted work x within
  obtain ⟨y, log₁, log₂, rfl, first, second⟩ := work.append_inv
  obtain ⟨between, _⟩ := first.planted fresh planted
  obtain ⟨_, later⟩ := second.planted fresh between
  obtain ⟨ids, here⟩ := h planted first (later.trans within)
  obtain ⟨ids', there⟩ := h' between second within
  exact ⟨ids ++ ids', here.append there⟩

theorem Gathers.flatMap {α : Type} {f : α → List SeedStep} {g : α → List SeedGroup}
    {parts : List α} (h : ∀ part ∈ parts, Gathers e (f part) (g part)) :
    Gathers e (parts.flatMap f) (parts.flatMap g) := by
  induction parts with
  | nil => exact .nil
  | cons part rest ih =>
    rw [List.flatMap_cons, List.flatMap_cons]
    exact .append fresh (h part (List.mem_cons_self ..))
      (ih fun later hlater => h later (List.mem_cons_of_mem _ hlater))

theorem gathers_solitary (alone : ∀ step ∈ steps, step.Solitary) : Gathers e steps [] := by
  induction steps with
  | nil => exact .nil
  | cons step rest ih =>
    have one : Gathers e [step] [] := by
      intro done before w log v _ work x _
      obtain _ | ⟨first, _ | _⟩ := work
      exact ⟨[], first.gathers_nothing (alone step (List.mem_cons_self ..))⟩
    exact .append fresh one (ih fun later hlater => alone later (List.mem_cons_of_mem _ hlater))

theorem gathers_realm (r : RealmSeed) : Gathers e r.steps r.seedGroups := by
  have first : Gathers e (.realm r.name r.description :: r.users.map (.user r.name)) [] := by
    refine gathers_solitary fresh fun step hstep => ?_
    rcases List.mem_cons.1 hstep with rfl | hstep
    · trivial
    · obtain ⟨u, _, rfl⟩ := List.mem_map.1 hstep
      trivial
  have groups : Gathers e (r.groups.flatMap (GroupSeed.steps r.name)) r.seedGroups := by
    rw [RealmSeed.seedGroups, List.map_eq_flatMap]
    refine .flatMap fresh fun g _ => ?_
    intro done before w log v _ work x within
    obtain ⟨k, gathered⟩ := work.gathered_group within
    exact ⟨[k], gathered⟩
  have last : Gathers e (r.repositories.flatMap (RepositorySeed.steps r.name)) [] := by
    refine gathers_solitary fresh fun step hstep => ?_
    obtain ⟨repo, _, hstep⟩ := List.mem_flatMap.1 hstep
    rcases List.mem_cons.1 hstep with rfl | hstep
    · trivial
    · obtain ⟨c, _, rfl⟩ := List.mem_map.1 hstep
      trivial
  simpa [RealmSeed.steps] using (first.append fresh groups).append fresh last

/-- The steps of a seed make the groups that it declares. -/
theorem gathers_seed (s : Seed) : Gathers e s.steps s.groups := by
  have grants : Gathers e (s.grants.map .grant) [] := by
    refine gathers_solitary fresh fun step hstep => ?_
    obtain ⟨g, _, rfl⟩ := List.mem_map.1 hstep
    trivial
  simpa [Seed.steps, Seed.groups] using
    (Gathers.flatMap fresh fun r _ => gathers_realm fresh r).append fresh grants

end Putting

end AccessControl
