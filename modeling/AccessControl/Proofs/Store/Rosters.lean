/-
  AccessControl/Proofs/Store/Rosters.lean
  =======================================
  **Realms list their users and groups.**

  A user or a group belongs to one realm for good, and the realm keeps two *rosters*, one of
  its users and one of its groups.  Who came into a store, and in which order, is read off
  the changes that were carried out.  The roster of a realm is the row of those who came to
  this realm, in the order in which they came (`Run.enrols`); nobody comes to a resource that
  is no realm, and nobody goes.

  A party and the entry in its realm's roster are written one after the other.  That they
  agree follows from what one newcomer does to all rosters (`of_newcomer`), and from what
  every other change leaves alone (`rosters_of_no_newcomer`, `lasting_of_no_newcomer`).

  ## Main definitions

  * `PartyType`, `ResourceKind.roster`: the two kinds of parties, and who is listed where;
  * `Change.newParty?`, `newcomers`: the parties that changes make, as they are made;
  * `enrolled`: those who came to a realm;
  * `Store.Enrols`: a store holds exactly those who came, and realms list them.

  ## Main statements

  * `of_newcomer`: what a change does that makes a party;
  * `Step.enrols`, `Run.enrols`: the rosters follow from the history.
-/
import AccessControl.Proofs.Store.Connected
import Mathlib.Data.List.Nodup

namespace AccessControl

/-! ## 1. Rosters -/

/-- Whether a party is a user or a group. -/
inductive PartyType where
  | user | group
deriving DecidableEq, Repr

def Party.type : Party → PartyType
  | .user _ => .user
  | .group _ => .group

theorem Party.eq_of_lasting {p q : Party} (h : p.lasting = q.lasting) :
    p.id = q.id ∧ p.info.realmId = q.info.realmId ∧ p.type = q.type := by
  refine ⟨congrArg Lasting.id h, congrArg Lasting.realmId h, ?_⟩
  have account := congrArg Lasting.account h
  cases p <;> cases q <;> first | rfl | cases account

def Store.RealmAt (s : Store) (id : ObjectId) : Prop :=
  ∃ r, s.resources.get? id = some r ∧ r.type = .realm

theorem Store.RealmAt.of_kind {s : Store} {id : ObjectId} {r : Resource} {data : RealmData}
    (home : s.resources.get? id = some r) (isRealm : r.kind = .realm data) : s.RealmAt id :=
  ⟨r, home, by rw [Resource.type, isRealm]; rfl⟩

/-- The parties of one kind that a resource lists.  Only realms list any. -/
def ResourceKind.roster : ResourceKind → PartyType → List ObjectId
  | .realm d, .user => d.userIds
  | .realm d, .group => d.groupIds
  | _, _ => []

/-- The rosters of a resource. -/
def Resource.roster (r : Resource) : PartyType → List ObjectId := r.kind.roster

theorem ResourceKind.roster_of_not_realm {kind : ResourceKind} (h : kind.type ≠ .realm) :
    kind.roster = fun _ => [] := by
  funext type
  cases kind <;> first | exact absurd rfl h | rfl

theorem ResourceKind.roster_adopt {parent adopted : ResourceKind} {child : ResourceType}
    {id : ObjectId} (h : parent.adopt child id = some adopted) :
    adopted.roster = parent.roster := by
  funext type
  cases parent <;> cases child <;> simp only [adopt, reduceCtorEq, Option.some.injEq] at h <;>
    subst h <;> cases type <;> rfl

def Party.enter (p : Party) (k : ObjectId) (lists : PartyType → List ObjectId) :
    PartyType → List ObjectId :=
  fun type => if p.info.realmId = k ∧ p.type = type then lists type ++ [p.id] else lists type

theorem Party.enter_of_ne {p : Party} {k : ObjectId} (h : k ≠ p.info.realmId)
    (lists : Option (PartyType → List ObjectId)) : lists.map (p.enter k) = lists := by
  cases lists with
  | none => rfl
  | some lists => exact congrArg some (funext fun _ => if_neg fun home => h home.1.symm)

/-! ## 2. Newcomers -/

/-- The party that a change makes, as it is made. -/
def Change.newParty? : Change → Option Party
  | createUser id now realmId login name passwordHash =>
    some (.user (User.new (PartyInfo.new id now name realmId) login passwordHash))
  | createGroup id now realmId name description =>
    some (.group (Group.new (PartyInfo.new id now name realmId) description))
  | _ => none

namespace Change.Effect

variable {c : Change} {s t : Store} {ids : List ObjectId}

/-- A change that makes a party puts it into the store and into the roster of its realm. -/
theorem of_newcomer (he : c.Effect s t) {p : Party} (comes : c.newParty? = some p) :
    c.newId? s = some p.id ∧ t.parties = s.parties.put p.id p ∧
      s.RealmAt p.info.realmId ∧
      ∀ k, t.resources.view Resource.roster k =
        (s.resources.view Resource.roster k).map (p.enter k) := by
  -- of all that changes in the realm, only one roster shows
  have entered : ∀ {k : ObjectId} {realm realm' : Resource},
      s.resources.get? p.info.realmId = some realm →
      realm'.roster = p.enter p.info.realmId realm.roster →
      (s.resources.put p.info.realmId realm').view Resource.roster k =
        (s.resources.view Resource.roster k).map (p.enter k) := by
    intro k realm realm' home listed
    rw [Shelf.view_put]
    by_cases hk : k = p.info.realmId
    · rw [if_pos hk, hk, Shelf.view_of_get? home, listed]
      rfl
    · rw [if_neg hk, Party.enter_of_ne hk]
  cases he with
  | @user id realmId now login name passwordHash realm data free home isRealm =>
    cases comes
    refine ⟨rfl, rfl, .of_kind home isRealm, fun k => ?_⟩
    refine entered home (funext fun type => ?_)
    cases type <;>
      simp [Resource.roster, ResourceKind.roster, isRealm, Party.enter, Party.type, Party.id,
        Party.info, User.new, PartyInfo.new]
  | @group id realmId now name description realm data home isRealm =>
    cases comes
    refine ⟨rfl, rfl, .of_kind home isRealm, fun k => ?_⟩
    refine entered home (funext fun type => ?_)
    cases type <;>
      simp [Resource.roster, ResourceKind.roster, isRealm, Party.enter, Party.type, Party.id,
        Party.info, Group.new, PartyInfo.new]
  | remask asks => cases asks <;> cases comes
  | grant asks => cases asks <;> cases comes
  | _ => cases comes

/-- A change that makes no party leaves the parties as they are, apart from what they
    list. -/
theorem lasting_of_no_newcomer (he : c.Effect s t) (nobody : c.newParty? = none) :
    t.parties.view Party.lasting = s.parties.view Party.lasting := by
  induction he with
  | user => cases nobody
  | group => cases nobody
  | member hu hg home =>
    funext i
    exact ((Effect.member hu hg home).parties_lasting i).resolve_right nofun
  | repository _ ih => exact ih rfl
  | grant _ _ hp => exact Shelf.view_put_same hp (Party.lasting_attach _ _)
  | @revoke _ partyId =>
    rcases found : s.parties.get? partyId with _ | p
    · rfl
    · exact Shelf.view_put_same found (Party.lasting_detach _ _)
  | attempt hu => exact Shelf.view_put_same hu rfl
  | _ => rfl

/-- It leaves the rosters as they are, too.  Those of a new resource are empty. -/
theorem rosters_of_no_newcomer (he : c.Effect s t) (tidy : Stage.Tidy ⟨s, ids⟩)
    (nobody : c.newParty? = none) (k : ObjectId) :
    t.resources.view Resource.roster k = s.resources.view Resource.roster k ∨
      c.newId? s = some k ∧ t.resources.view Resource.roster k = some fun _ => [] := by
  induction he with
  | @realm id =>
    by_cases new : k = id
    · subst new
      refine Or.inr ⟨rfl, (Shelf.view_of_get? (Shelf.get?_put_self _ _ _)).trans ?_⟩
      exact congrArg some (funext fun type => by cases type <;> rfl)
    · exact Or.inl ((Shelf.view_put _ _ _).trans (if_neg new))
  | @resource id parentId _ _ _ kind adopted parent _ above fits lists =>
    have own : parent.id = parentId := tidy.resources _ _ above
    rw [← own] at above
    by_cases new : k = id
    · subst new
      refine Or.inr ⟨rfl, (Shelf.view_of_get? (Shelf.get?_put_self _ _ _)).trans ?_⟩
      refine congrArg some (ResourceKind.roster_of_not_realm ?_)
      intro isRealm
      rw [isRealm] at fits
      cases fits
    · refine Or.inl ((Shelf.view_put _ _ _).trans ((if_neg new).trans ?_))
      exact congrFun (Shelf.view_put_same above (ResourceKind.roster_adopt lists)) k
  | repository _ ih => exact ih rfl
  | user => cases nobody
  | group => cases nobody
  | grant _ hr =>
    refine Or.inl (congrFun (Shelf.view_put_same hr ?_) k)
    rfl
  | @revoke resourceId =>
    rcases found : s.resources.get? resourceId with _ | r
    · exact Or.inl rfl
    · refine Or.inl (congrFun (Shelf.view_put_same found ?_) k)
      rfl
  | _ => exact Or.inl rfl

end Change.Effect

/-! ## 3. Who came to a realm -/

/-- The party that was made by a deed, if it was carried out and makes one. -/
def Deed.newParty? (d : Deed) : Option Party := if d.done then d.change.newParty? else none

/-- All parties that were made, in the order in which they were made. -/
def newcomers (log : List Deed) : List Party := log.filterMap Deed.newParty?

theorem newcomers_concat (log : List Deed) (d : Deed) :
    newcomers (log ++ [d]) = newcomers log ++ d.newParty?.toList := by
  rw [newcomers, List.filterMap_append, List.filterMap_cons, List.filterMap_nil]
  cases d.newParty? <;> rfl

/-- The ids of those of one kind who came to a realm, in the order in which they came. -/
def enrolled (came : List Party) (realmId : ObjectId) (type : PartyType) : List ObjectId :=
  (came.filter fun p => p.info.realmId = realmId ∧ p.type = type).map Party.id

theorem enrolled_concat (came : List Party) (p : Party) (k : ObjectId) :
    enrolled (came ++ [p]) k = p.enter k (enrolled came k) := by
  funext type
  by_cases home : p.info.realmId = k ∧ p.type = type <;> simp [enrolled, Party.enter, home]

theorem enrolled_eq_nil {came : List Party} {k : ObjectId}
    (h : ∀ p ∈ came, p.info.realmId ≠ k) : enrolled came k = fun _ => [] := by
  funext type
  rw [enrolled, List.map_eq_nil_iff, List.filter_eq_nil_iff]
  intro p hp
  simp [h p hp]

/-! ## 4. Histories -/

/-- A store holds those who came and nobody else, and each realm lists those who came to
    it. -/
structure Store.Enrols (s : Store) (came : List Party) : Prop where
  rosters : ∀ k lists, s.resources.view Resource.roster k = some lists → lists = enrolled came k
  present : ∀ p ∈ came, s.parties.view Party.lasting p.id = some p.lasting
  arrived : ∀ i q, s.parties.get? i = some q → ∃ p ∈ came, p.id = i
  housed : ∀ p ∈ came, s.RealmAt p.info.realmId
  distinct : (came.map Party.id).Nodup

namespace Store.Enrols

variable {s : Store} {came : List Party}

theorem empty : Store.Enrols .empty [] where
  rosters _ _ h := by cases h
  present _ h := by cases h
  arrived _ _ h := by cases h
  housed _ h := by cases h
  distinct := List.nodup_nil

theorem origin (h : s.Enrols came) {i : ObjectId} {q : Party} (hq : s.parties.get? i = some q) :
    ∃ p ∈ came, p.id = i ∧ p.lasting = q.lasting := by
  obtain ⟨p, hp, rfl⟩ := h.arrived i q hq
  have same := h.present p hp
  rw [Shelf.view_of_get? hq] at same
  exact ⟨p, hp, rfl, (Option.some.inj same).symm⟩

theorem home (h : s.Enrols came) {i : ObjectId} {q : Party} (hq : s.parties.get? i = some q) :
    s.RealmAt q.info.realmId := by
  obtain ⟨p, hp, _, same⟩ := h.origin hq
  rw [← (Party.eq_of_lasting same).2.1]
  exact h.housed p hp

theorem mem_enrolled (h : s.Enrols came) {i k : ObjectId} {type : PartyType} :
    i ∈ enrolled came k type ↔
      ∃ q, s.parties.get? i = some q ∧ q.info.realmId = k ∧ q.type = type := by
  constructor
  · intro hi
    obtain ⟨p, hp, rfl⟩ := List.mem_map.1 hi
    obtain ⟨hp, belongs⟩ := List.mem_filter.1 hp
    obtain ⟨home, kind⟩ := of_decide_eq_true belongs
    obtain ⟨q, hq, same⟩ := Shelf.view_eq_some.1 (h.present p hp)
    obtain ⟨_, realm, type⟩ := Party.eq_of_lasting same
    exact ⟨q, hq, realm.trans home, type.trans kind⟩
  · rintro ⟨q, hq, home, kind⟩
    obtain ⟨p, hp, rfl, same⟩ := h.origin hq
    obtain ⟨_, realm, type⟩ := Party.eq_of_lasting same
    refine List.mem_map.2 ⟨p, List.mem_filter.2 ⟨hp, decide_eq_true ⟨?_, ?_⟩⟩, rfl⟩
    · exact realm.trans home
    · exact type.trans kind

theorem nodup_enrolled (h : s.Enrols came) (k : ObjectId) (type : PartyType) :
    (enrolled came k type).Nodup :=
  h.distinct.sublist (List.filter_sublist.map Party.id)

end Store.Enrols

section OneChange

variable {w : Stage} {c : Change} {t : Store} {came : List Party} {p : Party}

theorem Change.Effect.realmAt_lasts (he : c.Effect w.store t) (tidy : w.Tidy)
    (fresh : ∀ id, c.newId? w.store = some id → id ∉ w.drawn) {k : ObjectId}
    (h : w.store.RealmAt k) : t.RealmAt k := by
  obtain ⟨r, hr, isRealm⟩ := h
  obtain ⟨r', hr', same⟩ :=
    he.resource_lasts tidy (fun id hid => (tidy.unused (fresh id hid)).1) hr
  exact ⟨r', hr', (congrArg Resource.Lasting.type same).trans isRealm⟩

theorem Change.Effect.enrols_of_nobody (he : c.Effect w.store t) (tidy : w.Tidy)
    (fresh : ∀ id, c.newId? w.store = some id → id ∉ w.drawn) (h : w.store.Enrols came)
    (nobody : c.newParty? = none) : t.Enrols came where
  rosters k lists hl := by
    rcases he.rosters_of_no_newcomer tidy nobody k with before | ⟨new, alone⟩
    · exact h.rosters k lists (before ▸ hl)
    · -- nobody came to a resource that was not there
      rw [alone] at hl
      cases hl
      refine (enrolled_eq_nil fun p hp home => ?_).symm
      obtain ⟨r, hr, _⟩ := h.housed p hp
      rw [home, (tidy.unused (fresh k new)).1] at hr
      cases hr
  present p hp := by
    rw [he.lasting_of_no_newcomer nobody]
    exact h.present p hp
  arrived i q hq := by
    have view := Shelf.view_of_get? (f := Party.lasting) hq
    rw [he.lasting_of_no_newcomer nobody] at view
    obtain ⟨q', hq', _⟩ := Shelf.view_eq_some.1 view
    exact h.arrived i q' hq'
  housed p hp := he.realmAt_lasts tidy fresh (h.housed p hp)
  distinct := h.distinct

theorem Change.Effect.enrols_of_newcomer (he : c.Effect w.store t) (tidy : w.Tidy)
    (fresh : ∀ id, c.newId? w.store = some id → id ∉ w.drawn) (h : w.store.Enrols came)
    (comes : c.newParty? = some p) : t.Enrols (came ++ [p]) := by
  obtain ⟨new, parties, home, rosters⟩ := he.of_newcomer comes
  have other : ∀ q ∈ came, q.id ≠ p.id := by
    intro q hq same
    have view := h.present q hq
    rw [same, Shelf.view, (tidy.unused (fresh _ new)).2.1] at view
    cases view
  refine ⟨fun k lists hl => ?rosters, fun q hq => ?present, fun i q hq => ?arrived,
    fun q hq => ?housed, ?distinct⟩
  case rosters =>
    rw [rosters k] at hl
    obtain ⟨before, hbefore, rfl⟩ := Option.map_eq_some_iff.1 hl
    rw [enrolled_concat, h.rosters k before hbefore]
  case present =>
    rw [parties, Shelf.view_put]
    rcases List.mem_append.1 hq with hq | hq
    · rw [if_neg (other q hq)]
      exact h.present q hq
    · cases List.mem_singleton.1 hq
      exact if_pos rfl
  case arrived =>
    rw [parties, Shelf.get?_put] at hq
    by_cases hi : i = p.id
    · exact ⟨p, List.mem_append_right _ (List.mem_singleton_self p), hi.symm⟩
    · rw [if_neg hi] at hq
      obtain ⟨q', hq', same⟩ := h.arrived i q hq
      exact ⟨q', List.mem_append_left _ hq', same⟩
  case housed =>
    rcases List.mem_append.1 hq with hq | hq
    · exact he.realmAt_lasts tidy fresh (h.housed q hq)
    · cases List.mem_singleton.1 hq
      exact he.realmAt_lasts tidy fresh home
  case distinct =>
    rw [List.map_append, List.map_singleton]
    refine List.nodup_append.2 ⟨h.distinct, List.nodup_singleton _, ?_⟩
    intro i hi j hj same
    obtain ⟨q, hq, rfl⟩ := List.mem_map.1 hi
    exact other q hq (same.trans (List.mem_singleton.1 hj))

end OneChange

/-- A step keeps parties and rosters in line with who came. -/
theorem Step.enrols {w v : Stage} {d : Deed} (hs : Step w d v) (tidy : w.Tidy) {log : List Deed}
    (h : w.store.Enrols (newcomers log)) : v.store.Enrols (newcomers (log ++ [d])) := by
  rw [newcomers_concat]
  cases hs with
  | refused =>
    rw [show (Deed.newParty? ⟨_, false⟩) = none from rfl]
    simpa using h
  | @done c t performed fresh =>
    have he := Change.effect_of_perform performed
    rw [show Deed.newParty? ⟨c, true⟩ = c.newParty? from rfl]
    rcases comes : c.newParty? with _ | p
    · rw [Option.toList_none, List.append_nil]
      exact he.enrols_of_nobody tidy fresh h comes
    · exact he.enrols_of_newcomer tidy fresh h comes

/-- In every store that is reached, realms list those who came to them. -/
theorem Run.enrols {v : Stage} {log : List Deed} (h : Run .start log v) :
    v.store.Enrols (newcomers log) := by
  induction h with
  | stay => exact .empty
  | more first last ih => exact last.enrols (first.tidy .start) ih

end AccessControl
