/-
  AccessControl/Proofs/Seed/Planted.lean
  ======================================
  **What a seed has made so far.**

  Every seed can be followed while it is carried out, whether or not it means what it says.
  The index refuses a path that is in use, and the store a login, so that resources and users
  are found under the names that they got first, for good.  Two groups may have the same path;
  then the index has the later one, and of the groups it is only known which realm the one in
  the index belongs to.

  A resource is stored as the seed declares it: under its path, with its name, its kind, and
  under the resource that encloses it.  What a dockerfile, an image, a scan configuration or a
  flag is made with never changes afterwards.

  ## Main definitions

  * `SeedNode`, `SeedStep.node?`: the resources of a seed;
  * `groupHome?`: the realm of the last group with a path;
  * `SeedNode.Made`, `UserSeed.Made`: what is stored is what was declared;
  * `Planted`: what is known of every seed while it is carried out.

  ## Main statements

  * `Run.leaf_of_birth`: what is stored in a leaf is what it was made with;
  * `Planted.extend`: a step carries on what is known;
  * `Planted.node`, `Planted.user`: nodes and users are made as they are declared;
  * `Planted.node_of_stored`: nothing else is stored.
-/
import AccessControl.Proofs.Seed.Accounts
import AccessControl.Proofs.Store.Tree

namespace AccessControl

/-! ## 1. Leaves -/

/-- The data of a resource that nothing stands under; nothing for a realm or a repository,
    which list their children. -/
def ResourceKind.leaf? : ResourceKind → Option ResourceKind
  | .realm _ | .repository _ => none
  | kind => some kind

def Resource.leaf? (r : Resource) : Option ResourceKind := r.kind.leaf?

theorem ResourceKind.leaf?_adopt {parent adopted : ResourceKind} {child : ResourceType}
    {id : ObjectId} (h : parent.adopt child id = some adopted) : adopted.leaf? = parent.leaf? := by
  cases parent <;> cases child <;> simp only [adopt, reduceCtorEq, Option.some.injEq] at h <;>
    subst h <;> rfl

namespace Change.Effect

variable {c : Change} {s t : Store} {ids : List ObjectId}

theorem leaf_lasting (he : c.Effect s t) (tidy : Stage.Tidy ⟨s, ids⟩) (i : ObjectId) :
    t.resources.view Resource.leaf? i = s.resources.view Resource.leaf? i ∨
      c.newId? s = some i := by
  induction he with
  | @realm id =>
    by_cases new : i = id
    · exact Or.inr (congrArg some new.symm)
    · exact Or.inl ((Shelf.view_put _ _ _).trans (if_neg new))
  | @resource id parentId _ _ _ _ _ parent _ above _ lists =>
    have own : parent.id = parentId := tidy.resources _ _ above
    rw [← own] at above
    by_cases new : i = id
    · exact Or.inr (congrArg some new.symm)
    · refine Or.inl ((Shelf.view_put _ _ _).trans ((if_neg new).trans ?_))
      exact congrFun (Shelf.view_put_same above (ResourceKind.leaf?_adopt lists)) i
  | repository _ ih => exact ih
  | user _ home isRealm =>
    refine Or.inl (congrFun (Shelf.view_put_same home ?_) i)
    simp [Resource.leaf?, isRealm, ResourceKind.leaf?]
  | group home isRealm =>
    refine Or.inl (congrFun (Shelf.view_put_same home ?_) i)
    simp [Resource.leaf?, isRealm, ResourceKind.leaf?]
  | grant _ hr =>
    refine Or.inl (congrFun (Shelf.view_put_same hr ?_) i)
    rfl
  | @revoke resourceId =>
    rcases found : s.resources.get? resourceId with _ | r
    · exact Or.inl rfl
    · refine Or.inl (congrFun (Shelf.view_put_same found ?_) i)
      rfl
  | _ => exact Or.inl rfl

theorem leaf_of_birth (he : c.Effect s t) {b : Resource} (born : c.born? = some b) :
    t.resources.view Resource.leaf? b.id = some b.leaf? := by
  induction he with
  | realm =>
    cases born
    exact Shelf.view_of_get? (Shelf.get?_put_self _ _ _)
  | resource =>
    cases born
    exact (Shelf.view_put _ _ _).trans (if_pos rfl)
  | repository _ ih => exact ih born
  | remask asks => cases asks <;> cases born
  | grant asks => cases asks <;> cases born
  | _ => cases born

end Change.Effect

/-- What is stored in a leaf is what it was made with. -/
theorem Run.leaf_of_birth {v : Stage} {log : List Deed} (h : Run .start log v) {b : Resource}
    (hb : b ∈ births log) : v.store.resources.view Resource.leaf? b.id = some b.leaf? := by
  obtain ⟨d, hd, born⟩ := List.mem_filterMap.1 hb
  refine h.of_mem (P := fun x => x.store.resources.view Resource.leaf? b.id = some b.leaf?)
    .start hd ?_ ?_
  · intro x y _ hs
    cases hs with
    | refused => cases born
    | done performed => exact (Change.effect_of_perform performed).leaf_of_birth born
  · intro x y d' tidy hs before
    cases hs with
    | refused => exact before
    | done performed fresh =>
      rcases (Change.effect_of_perform performed).leaf_lasting tidy b.id with same | new
      · exact same.trans before
      · obtain ⟨r, hr, _⟩ := Shelf.view_eq_some.1 before
        rw [(tidy.unused (fresh _ new)).1] at hr
        cases hr

/-! ## 2. Nodes -/

/-- A resource as a seed declares it, with the path of what encloses it. -/
structure SeedNode where
  path : String
  name : String
  description : Option String
  outer : Option String
  kind : ResourceKind

/-- The resource that a step makes. -/
def SeedStep.node? : SeedStep → Option SeedNode
  | .realm name description => some ⟨name, name, description, none, .realm .empty⟩
  | .repository home name description =>
    some ⟨seedPath home name, name, description, some home, .repository .empty⟩
  | .child outer name kind => some ⟨seedPath outer name, name, none, some outer, kind⟩
  | _ => none

theorem SeedStep.name?_eq_resource {step : SeedStep} {path : String} :
    step.name? = some (.resource path) ↔ ∃ n, step.node? = some n ∧ n.path = path := by
  cases step <;> simp [name?, node?]

theorem SeedStep.name?_eq_user {step : SeedStep} {login : String} :
    step.name? = some (.user login) ↔ ∃ home u, step = .user home u ∧ u.login = login := by
  cases step <;> simp [name?]

theorem SeedStep.name?_eq_group {step : SeedStep} {path : String} :
    step.name? = some (.group path) ↔
      ∃ home name description, step = .group home name description ∧
        seedPath home name = path := by
  cases step <;> simp [name?]

/-- The resource is the one that was declared, and stands where it was declared. -/
structure SeedNode.Made (n : SeedNode) (x : SeedIndex) (r : Resource) : Prop where
  named : x.id? (.resource n.path) = some r.id
  name : r.name = n.name
  description : r.description = n.description
  type : r.type = n.kind.type
  leaf : r.leaf? = n.kind.leaf?
  above : x.Encloses n.outer r.parentId

/-- The user is the one that was declared in a realm. -/
structure UserSeed.Made (s : UserSeed) (home : String) (e : Supply) (x : SeedIndex) (u : User) :
    Prop where
  named : x.id? (.user s.login) = some u.info.id
  name : u.info.name = s.name.getD s.login
  account : s.Account e.salt u
  home : x.id? (.resource home) = some u.info.realmId

/-! ## 3. What is known while a seed is carried out -/

def SeedName.Lone (a : SeedName) : Prop := ∀ path, a ≠ .group path

theorem SeedName.Lone.resource (path : String) : (SeedName.resource path).Lone :=
  fun _ same => nomatch same

theorem SeedName.Lone.user (login : String) : (SeedName.user login).Lone :=
  fun _ same => nomatch same

/-- What has a name of its own in an index has the same name in another one. -/
def SeedIndex.Within (x y : SeedIndex) : Prop :=
  ∀ a id, a.Lone → x.id? a = some id → y.id? a = some id

theorem SeedIndex.Within.trans {x y z : SeedIndex} (h : x.Within y) (h' : y.Within z) :
    x.Within z :=
  fun a id lone known => h' a id lone (h a id lone known)

theorem SeedIndex.Encloses.within {x y : SeedIndex} {outer : Option String}
    {id : Option ObjectId} (h : x.Encloses outer id) (more : x.Within y) : y.Encloses outer id := by
  cases h with
  | nothing => exact .nothing
  | resource named => exact .resource (more _ _ (.resource _) named)

/-- The realm of a group with this path, if the step makes one, and else the one known before. -/
def SeedStep.rehome (path : String) (known : Option String) : SeedStep → Option String
  | .group home name _ => if seedPath home name = path then some home else known
  | _ => known

/-- The realm of the last group with a path. -/
def groupHome? (done : List SeedStep) (path : String) : Option String :=
  done.foldl (SeedStep.rehome path) none

theorem groupHome?_concat (done : List SeedStep) (step : SeedStep) (path : String) :
    groupHome? (done ++ [step]) path = step.rehome path (groupHome? done path) := by
  rw [groupHome?, List.foldl_append]
  rfl

theorem SeedStep.rehome_of_ne {step : SeedStep} {path : String}
    (other : step.name? ≠ some (.group path)) (known : Option String) :
    step.rehome path known = known := by
  cases step with
  | group home name description =>
    refine if_neg fun same => other ?_
    rw [← same]
    rfl
  | _ => rfl

/-- What is known of every seed while it is carried out. -/
structure Planted (e : Supply) (done : List SeedStep) (log : List Deed) (w : Sowing) : Prop where
  housed : Housed e done log w
  asked : ∀ step ∈ done, ∃ x c, x.Within w.index ∧ step.Asks e x c ∧ ⟨c, true⟩ ∈ log
  answered : ∀ d ∈ log, ∃ step ∈ done, ∃ x, x.Within w.index ∧ step.Asks e x d.change
  named : ∀ a, (∃ id, w.index.id? a = some id) ↔ ∃ step ∈ done, step.name? = some a
  drawn : ∀ a id, w.index.id? a = some id → id ∈ e.drawn w.taken
  apart : w.index.Apart
  homes : ∀ path k, w.index.id? (.group path) = some k →
    ∃ home g, groupHome? done path = some home ∧ w.store.parties.get? k = some (.group g) ∧
      w.index.id? (.resource home) = some g.info.realmId

theorem Planted.start (e : Supply) : Planted e [] [] ⟨.empty, .empty, 0⟩ where
  housed := .start e
  asked _ h := nomatch h
  answered _ h := nomatch h
  named a := by
    constructor
    · rintro ⟨id, known⟩
      cases a <;> cases known
    · rintro ⟨step, absent, _⟩
      cases absent
  drawn a _ h := by cases a <;> cases h
  apart a _ _ h := by cases a <;> cases h
  homes _ _ h := nomatch h

section OneStep

variable {e : Supply} {done : List SeedStep} {log : List Deed} {w v : Sowing} {step : SeedStep}
  {c : Change}

theorem SeedStep.Done.within (hs : step.Done e w v c) (h : Housed e done log w) :
    w.index.Within v.index := by
  intro a id lone known
  rcases name : step.name? with _ | b
  · rw [hs.unnamed name]
    exact known
  · have names := (hs.names b name).2
    rw [names.id?, if_neg]
    · exact known
    rintro rfl
    cases a with
    | group path => exact lone path rfl
    | resource path =>
      rw [names.new path rfl] at known
      cases known
    | user login =>
      obtain ⟨home, u, rfl, rfl⟩ := SeedStep.name?_eq_user.1 name
      have taken := h.logins u.login id known
      rw [hs.login_free] at taken
      cases taken

theorem Housed.newcomer (h : Housed e done log w) (hd : ⟨c, true⟩ ∈ log) {p : Party}
    (comes : c.newParty? = some p) :
    ∃ q, w.store.parties.get? p.id = some q ∧ q.lasting = p.lasting :=
  Shelf.view_eq_some.1 (h.run.enrols.present p (List.mem_filterMap.2 ⟨_, hd, comes⟩))

theorem Planted.homes_of_step (h : Planted e done log w) (hs : step.Done e w v c)
    (fresh : Function.Injective e.ids) {path : String} {k : ObjectId}
    (known : v.index.id? (.group path) = some k) :
    ∃ home g, groupHome? (done ++ [step]) path = some home ∧
      v.store.parties.get? k = some (.group g) ∧
      v.index.id? (.resource home) = some g.info.realmId := by
  rw [groupHome?_concat]
  have within := hs.within h.housed
  by_cases name : step.name? = some (.group path)
  · obtain ⟨home, name, description, rfl, rfl⟩ := SeedStep.name?_eq_group.1 name
    have more := h.housed.extend hs fresh
    obtain ⟨asks, _, _, _, _, _⟩ := hs
    cases asks with
    | @group _ _ _ id realmId home' named =>
      obtain rfl : k = id := Option.some.inj (known.symm.trans named)
      obtain ⟨q, stored, same⟩ :=
        more.newcomer (List.mem_append_right _ (List.mem_singleton_self _)) rfl
      cases q with
      | user u => cases congrArg Party.Lasting.account same
      | group g =>
        refine ⟨home, g, if_pos rfl, stored, ?_⟩
        rw [home']
        exact congrArg some (congrArg Party.Lasting.realmId same).symm
  · rw [SeedStep.rehome_of_ne name]
    have before : w.index.id? (.group path) = some k := by
      rcases hs.id?_eq_some known with before | ⟨now, _⟩
      · exact before
      · exact absurd now name
    obtain ⟨home, g, last, stored, realm⟩ := h.homes path k before
    obtain ⟨q, stays, type, same⟩ := (hs.toStep fresh).party_stays (h.housed.run.tidy .start) stored
    cases q with
    | user u => cases type
    | group g' =>
      refine ⟨home, g', last, stays, ?_⟩
      rw [within _ _ (.resource _) realm]
      exact congrArg some same.symm

theorem Planted.extend (h : Planted e done log w) (hs : step.Done e w v c)
    (fresh : Function.Injective e.ids) : Planted e (done ++ [step]) (log ++ [⟨c, true⟩]) v := by
  have within := hs.within h.housed
  refine ⟨h.housed.extend hs fresh, ?asked, ?answered, ?named,
    fun _ _ known => hs.drawn fresh h.drawn known, hs.apart fresh h.drawn h.apart,
    fun _ _ known => h.homes_of_step hs fresh known⟩
  case asked =>
    intro s hmem
    rcases List.mem_append.1 hmem with before | now
    · obtain ⟨x, c', inside, asks, hc'⟩ := h.asked s before
      exact ⟨x, c', inside.trans within, asks, List.mem_append_left _ hc'⟩
    · cases List.mem_singleton.1 now
      exact ⟨v.index, c, fun _ _ _ known => known, hs.asks, by simp⟩
  case answered =>
    intro d hd
    rcases List.mem_append.1 hd with before | now
    · obtain ⟨s, hmem, x, inside, asks⟩ := h.answered d before
      exact ⟨s, List.mem_append_left _ hmem, x, inside.trans within, asks⟩
    · cases List.mem_singleton.1 now
      exact ⟨step, by simp, v.index, fun _ _ _ known => known, hs.asks⟩
  case named =>
    intro a
    simp only [List.mem_append, List.mem_singleton, or_and_right, exists_or, exists_eq_left,
      ← h.named a]
    constructor
    · rintro ⟨id, known⟩
      rcases hs.id?_eq_some known with before | ⟨name, _⟩
      · exact Or.inl ⟨id, before⟩
      · exact Or.inr name
    · rcases name : step.name? with _ | b
      · rw [hs.unnamed name]
        rintro (before | none)
        · exact before
        · cases none
      · have names := (hs.names b name).2
        by_cases same : a = b
        · intro _
          exact ⟨_, same ▸ names.self⟩
        · rw [names.other same]
          rintro (before | now)
          · exact before
          · exact absurd (Option.some.inj now).symm same

end OneStep

/-! ## 4. What is stored -/

section Births

variable {e : Supply} {x : SeedIndex} {step : SeedStep} {c : Change} {n : SeedNode} {b : Resource}

theorem SeedStep.Asks.born_of_node (h : step.Asks e x c) (hn : step.node? = some n) :
    ∃ b, c.born? = some b ∧ x.id? (.resource n.path) = some b.id ∧ b.name = n.name ∧
      b.description = n.description ∧ b.kind = n.kind ∧ x.Encloses n.outer b.parentId := by
  cases h with
  | realm named =>
    cases hn
    exact ⟨_, rfl, named, rfl, rfl, rfl, .nothing⟩
  | repository home named =>
    cases hn
    exact ⟨_, rfl, named, rfl, rfl, rfl, .resource home⟩
  | child above named =>
    cases hn
    exact ⟨_, rfl, named, rfl, rfl, rfl, .resource above⟩
  | _ => cases hn

theorem SeedStep.Asks.node_of_born (h : step.Asks e x c) (born : c.born? = some b) :
    ∃ n, step.node? = some n := by
  cases h with
  | realm => exact ⟨_, rfl⟩
  | repository => exact ⟨_, rfl⟩
  | child => exact ⟨_, rfl⟩
  | _ => cases born

end Births

namespace Planted

variable {e : Supply} {done : List SeedStep} {log : List Deed} {w : Sowing}

theorem made_of_birth (h : Planted e done log w) {step : SeedStep} {x : SeedIndex} {d : Deed}
    {n : SeedNode} {b : Resource} (hd : d ∈ log) (born : d.born? = some b)
    (inside : x.Within w.index) (asks : step.Asks e x d.change) (hn : step.node? = some n) :
    ∃ r, w.store.resources.get? b.id = some r ∧ n.Made w.index r := by
  have hb : b ∈ births log := List.mem_filterMap.2 ⟨d, hd, born⟩
  have carried : d.change.born? = some b := by
    rw [← born, Deed.born?, if_pos (h.housed.answered d hd).1]
  obtain ⟨b', born', named, name, description, kind, above⟩ := asks.born_of_node hn
  obtain rfl : b = b' := Option.some.inj (carried.symm.trans born')
  obtain ⟨r, stored, same, _⟩ := h.housed.run.grown.stored hb
  have leaf := h.housed.run.leaf_of_birth hb
  rw [Shelf.view_of_get? stored] at leaf
  obtain ⟨sameName, sameParent, sameType⟩ := Resource.eq_of_lasting same
  refine ⟨r, stored, ?_, ?_, ?_, ?_, ?_, ?_⟩
  · rw [show r.id = b.id from congrArg Resource.Lasting.id same]
    exact inside _ _ (.resource _) named
  · rw [sameName, name]
  · exact (congrArg Resource.Lasting.description same).trans description
  · rw [sameType, Resource.type, kind]
  · rw [Option.some.inj leaf, Resource.leaf?, kind]
  · rw [sameParent]
    exact above.within inside

/-- Every resource that was declared is stored. -/
theorem node (h : Planted e done log w) {step : SeedStep} (hstep : step ∈ done) {n : SeedNode}
    (hn : step.node? = some n) :
    ∃ r, w.store.resources.get? r.id = some r ∧ n.Made w.index r := by
  obtain ⟨x, c, inside, asks, hc⟩ := h.asked step hstep
  obtain ⟨b, born, _⟩ := asks.born_of_node hn
  obtain ⟨r, stored, made⟩ := h.made_of_birth hc born inside asks hn
  have own : r.id = b.id := h.housed.run.sound.resources b.id r stored
  exact ⟨r, own ▸ stored, made⟩

/-- Nothing else is stored. -/
theorem node_of_stored (h : Planted e done log w) {i : ObjectId} {r : Resource}
    (hr : w.store.resources.get? i = some r) :
    ∃ step ∈ done, ∃ n, step.node? = some n ∧ n.Made w.index r := by
  obtain ⟨b, hb, rfl⟩ := h.housed.run.grown.born_of_stored hr
  obtain ⟨d, hd, born⟩ := List.mem_filterMap.1 hb
  obtain ⟨step, hstep, x, inside, asks⟩ := h.answered d hd
  have carried : d.change.born? = some b := by
    rw [← born, Deed.born?, if_pos (h.housed.answered d hd).1]
  obtain ⟨n, hn⟩ := asks.node_of_born carried
  obtain ⟨r', stored, made⟩ := h.made_of_birth hd born inside asks hn
  rw [hr] at stored
  cases stored
  exact ⟨step, hstep, n, hn, made⟩

theorem node_of_known (h : Planted e done log w) {path : String} {i : ObjectId}
    (known : w.index.id? (.resource path) = some i) :
    ∃ step ∈ done, ∃ n r, step.node? = some n ∧ n.path = path ∧
      w.store.resources.get? i = some r ∧ n.Made w.index r := by
  obtain ⟨step, hstep, name⟩ := (h.named _).1 ⟨i, known⟩
  obtain ⟨n, hn, rfl⟩ := SeedStep.name?_eq_resource.1 name
  obtain ⟨r, stored, made⟩ := h.node hstep hn
  obtain rfl : i = r.id := Option.some.inj (known.symm.trans made.named)
  exact ⟨step, hstep, n, r, hn, rfl, stored, made⟩

/-- Every user that was declared is stored. -/
theorem user (h : Planted e done log w) {home : String} {s : UserSeed}
    (hstep : SeedStep.user home s ∈ done) :
    ∃ u, w.store.parties.get? u.info.id = some (.user u) ∧ s.Made home e w.index u := by
  obtain ⟨x, c, inside, asks, hc⟩ := h.asked _ hstep
  cases asks with
  | @user _ _ id realmId home' named =>
    obtain ⟨q, stored, same⟩ := h.housed.newcomer hc rfl
    cases q with
    | group g => cases congrArg Party.Lasting.account same
    | user u =>
      have own : u.info.id = id := congrArg Party.Lasting.id same
      have realm : u.info.realmId = realmId := congrArg Party.Lasting.realmId same
      obtain ⟨login, digest⟩ := Prod.mk.inj (Option.some.inj (congrArg Party.Lasting.account same))
      refine ⟨u, own ▸ stored, ?_, ?_, ⟨login, digest, h.housed.untried stored⟩, ?_⟩
      · rw [own]
        exact inside _ _ (.user _) named
      · exact congrArg Party.Lasting.name same
      · rw [realm]
        exact inside _ _ (.resource _) home'

theorem user_of_known (h : Planted e done log w) {login : String} {i : ObjectId}
    (known : w.index.id? (.user login) = some i) :
    ∃ home s u, SeedStep.user home s ∈ done ∧ s.login = login ∧
      w.store.parties.get? i = some (.user u) ∧ s.Made home e w.index u := by
  obtain ⟨step, hstep, name⟩ := (h.named _).1 ⟨i, known⟩
  obtain ⟨home, s, rfl, rfl⟩ := SeedStep.name?_eq_user.1 name
  obtain ⟨u, stored, made⟩ := h.user hstep
  obtain rfl : i = u.info.id := Option.some.inj (known.symm.trans made.named)
  exact ⟨home, s, u, hstep, rfl, stored, made⟩

theorem party_of_known (h : Planted e done log w) {a : SeedName} {i : ObjectId}
    (known : w.index.id? a = some i) (party : ∀ path, a ≠ .resource path) :
    ∃ p, w.store.parties.get? i = some p := by
  cases a with
  | resource path => exact absurd rfl (party path)
  | user login =>
    obtain ⟨_, _, u, _, _, stored, _⟩ := h.user_of_known known
    exact ⟨_, stored⟩
  | group path =>
    obtain ⟨_, g, _, stored, _⟩ := h.homes path i known
    exact ⟨_, stored⟩

end Planted

end AccessControl
