/-
  AccessControl/Proofs/Store/Births.lean
  ======================================
  **How trees of resources grow.**

  A resource is made once and stays.  What a store holds of resources can be told from the
  changes that made them, their *births*, in the order in which they were carried out: every
  resource that was born is stored, looks as it did at its birth, and lists what it listed
  then, followed by the children that were born to it since (`Run.grown`).  Only what a
  resource lists of users, groups, grants and the like is left out.

  The parent's list and the child's reference to its parent are written one after the other.
  That both always agree follows from what one birth does to the outlines of all resources
  (`outlines_cases`), and from what a run of births amounts to (`grown_concat`).

  ## Main definitions

  * `ResourceKind.listed`: the children that a resource lists, by their kind;
  * `Resource.Outline`: what lasts of a resource, and its lists of children;
  * `Change.born?`, `births`: the resources that changes make, as they are made;
  * `childrenAmong`, `grown`: the children of a resource, and its outline, from the births.

  ## Main statements

  * `outlines_cases`: what a change does to the outlines of resources;
  * `Step.grown`, `Run.grown`: the outlines are those that follow from the births.
-/
import AccessControl.Proofs.Store.Connected
import Mathlib.Data.List.Nodup

namespace AccessControl

/-! ## 1. Outlines -/

/-- The children of one kind that a resource lists. -/
def ResourceKind.listed : ResourceKind → ResourceType → List ObjectId
  | .realm d, .repository => d.repositoryIds
  | .repository d, .dockerfile => d.dockerfileIds
  | .repository d, .dockerImage => d.imageIds
  | .repository d, .scanConfig => d.scanConfigIds
  | .repository d, .flag => d.flagIds
  | _, _ => []

theorem ResourceKind.listed_adopt {parent adopted : ResourceKind} {child : ResourceType}
    {id : ObjectId} (h : parent.adopt child id = some adopted) (type : ResourceType) :
    adopted.listed type =
      if type = child then parent.listed type ++ [id] else parent.listed type := by
  cases parent <;> cases child <;> simp only [adopt, reduceCtorEq, Option.some.injEq] at h <;>
    subst h <;> cases type <;> rfl

/-- What lasts of a resource, and the children that it lists. -/
structure Resource.Outline where
  lasting : Resource.Lasting
  lists : ResourceType → List ObjectId

theorem Resource.eq_of_lasting {r r' : Resource} (h : r.lasting = r'.lasting) :
    r.name = r'.name ∧ r.parentId = r'.parentId ∧ r.type = r'.type :=
  ⟨congrArg Lasting.name h, congrArg Lasting.parentId h, congrArg Lasting.type h⟩

def Resource.outline (r : Resource) : Resource.Outline := ⟨r.lasting, r.kind.listed⟩

def Resource.Outline.adopt (b : Resource) (k : ObjectId) (o : Resource.Outline) :
    Resource.Outline :=
  if b.parentId = some k then
    { o with lists := fun type => if type = b.type then o.lists type ++ [b.id] else o.lists type }
  else o

@[simp] theorem Resource.Outline.lasting_adopt (b : Resource) (k : ObjectId)
    (o : Resource.Outline) : (o.adopt b k).lasting = o.lasting := by
  unfold adopt
  split <;> rfl

theorem Resource.Outline.adopt_of_ne {b : Resource} {k : ObjectId} (h : b.parentId ≠ some k)
    (o : Option Resource.Outline) : o.map (adopt b k) = o := by
  cases o with
  | none => rfl
  | some o => exact congrArg some (if_neg h)

theorem Resource.outline_adopted {parent b : Resource} {adopted : ResourceKind}
    (above : b.parentId = some parent.id) (lists : parent.kind.adopt b.type b.id = some adopted) :
    ({ parent with kind := adopted } : Resource).outline = parent.outline.adopt b parent.id := by
  have lasting : ({ parent with kind := adopted } : Resource).lasting = parent.lasting := by
    simp [Resource.lasting, Resource.type, ResourceKind.type_adopt lists]
  rw [Outline.adopt, if_pos above, outline, lasting]
  exact congrArg (Outline.mk parent.lasting) (funext (ResourceKind.listed_adopt lists))

/-- What a realm lists of users and groups is no part of its outline. -/
theorem Resource.outline_realm {r : Resource} {data data' : RealmData}
    (isRealm : r.kind = .realm data) (same : data'.repositoryIds = data.repositoryIds) :
    ({ r with kind := .realm data' } : Resource).outline = r.outline := by
  have lasting : ({ r with kind := .realm data' } : Resource).lasting = r.lasting := by
    simp [Resource.lasting, Resource.type, isRealm, ResourceKind.type]
  rw [outline, outline, lasting, isRealm]
  refine congrArg (Outline.mk r.lasting) (funext fun type => ?_)
  cases type <;> first | exact same | rfl

/-! ## 2. Births -/

/-- The resource that a change makes, as it is made. -/
def Change.born? : Change → Option Resource
  | createRealm id now name description => some (.realm id now name description .empty)
  | createRepository id now realmId name description =>
    some ⟨id, name, description, now, some realmId, [], .repository .empty⟩
  | createResource id now parentId name description kind =>
    some ⟨id, name, description, now, some parentId, [], kind⟩
  | _ => none

/-- What a store demands of a resource that is born: its place, and its name. -/
structure Resource.Admissible (s : Store) (b : Resource) : Prop where
  placed : b.Placed s
  named : Store.checkName b.name b.kind = .ok ()
  free : b.type = .realm → s.hasRealm b.name = false

namespace Change.Effect

variable {c : Change} {s t : Store} {ids : List ObjectId}

/-- A change that makes no resource leaves all outlines as they are.  One that does adds
    the new resource, and its parent adopts it. -/
theorem outlines_cases (he : c.Effect s t) (tidy : Stage.Tidy ⟨s, ids⟩) :
    c.born? = none ∧ t.resources.view Resource.outline = s.resources.view Resource.outline ∨
      ∃ b, c.born? = some b ∧ c.newId? s = some b.id ∧ b.Admissible s ∧
        ∀ k, t.resources.view Resource.outline k =
          if k = b.id then some b.outline
          else (s.resources.view Resource.outline k).map (Resource.Outline.adopt b k) := by
  induction he with
  | realm free =>
    refine Or.inr ⟨_, rfl, rfl, ⟨rfl, rfl, fun _ => free⟩, fun k => ?_⟩
    refine (Shelf.view_put _ _ _).trans ?_
    split
    · rfl
    · exact (Resource.Outline.adopt_of_ne (Option.some_ne_none k).symm _).symm
  | @resource id parentId _ _ _ kind adopted parent named above fits lists =>
    have own : parent.id = parentId := tidy.resources _ _ above
    subst own
    have notRealm : kind.type ≠ .realm := by
      intro isRealm
      rw [isRealm] at fits
      cases fits
    refine Or.inr ⟨_, rfl, rfl, ⟨⟨parent, above, fits⟩, named, fun h => absurd h notRealm⟩,
      fun k => ?_⟩
    refine (Shelf.view_put _ _ _).trans ?_
    by_cases new : k = id
    · rw [if_pos new]
      exact (if_pos new).symm
    · rw [if_neg new]
      refine Eq.trans ?_ (if_neg new).symm
      refine (Shelf.view_put _ _ _).trans ?_
      by_cases parental : k = parent.id
      · rw [if_pos parental, parental, Shelf.view_of_get? above]
        exact congrArg some (Resource.outline_adopted rfl lists)
      · refine (if_neg parental).trans (Resource.Outline.adopt_of_ne (fun same => ?_) _).symm
        exact parental (Option.some.inj same).symm
  | repository _ ih => exact ih
  | user _ home isRealm =>
    exact Or.inl ⟨rfl, Shelf.view_put_same home (Resource.outline_realm isRealm rfl)⟩
  | group home isRealm =>
    exact Or.inl ⟨rfl, Shelf.view_put_same home (Resource.outline_realm isRealm rfl)⟩
  | member => exact Or.inl ⟨rfl, rfl⟩
  | remask asks => exact Or.inl ⟨by cases asks <;> rfl, rfl⟩
  | grant asks hr =>
    exact Or.inl ⟨by cases asks <;> rfl, Shelf.view_put_same hr rfl⟩
  | @revoke resourceId =>
    refine Or.inl ⟨rfl, ?_⟩
    rcases found : s.resources.get? resourceId with _ | r
    · rfl
    · exact Shelf.view_put_same found rfl
  | attempt => exact Or.inl ⟨rfl, rfl⟩

end Change.Effect

/-! ## 3. What a row of births amounts to -/

/-- The resource that was made by a deed, if it was carried out and makes one. -/
def Deed.born? (d : Deed) : Option Resource := if d.done then d.change.born? else none

/-- All resources that were born, in the order of their births. -/
def births (log : List Deed) : List Resource := log.filterMap Deed.born?

theorem births_concat (log : List Deed) (d : Deed) :
    births (log ++ [d]) = births log ++ d.born?.toList := by
  rw [births, List.filterMap_append, List.filterMap_cons, List.filterMap_nil]
  cases d.born? <;> rfl

/-- The children of one kind that were born to a resource, in the order of their births. -/
def childrenAmong (born : List Resource) (k : ObjectId) (type : ResourceType) : List ObjectId :=
  (born.filter fun b => b.parentId = some k ∧ b.type = type).map Resource.id

/-- The outline of a resource, as it follows from the births: it is stored if it was born,
    looks as it did then, and lists what it listed then, followed by its children. -/
def grown (born : List Resource) (k : ObjectId) : Option Resource.Outline :=
  (born.find? fun b => b.id = k).map fun b =>
    ⟨b.lasting, fun type => b.kind.listed type ++ childrenAmong born k type⟩

section Growth

variable {born : List Resource} {b : Resource} {k : ObjectId}

theorem childrenAmong_concat (type : ResourceType) :
    childrenAmong (born ++ [b]) k type =
      childrenAmong born k type ++ if b.parentId = some k ∧ b.type = type then [b.id] else [] := by
  by_cases own : b.parentId = some k ∧ b.type = type <;> simp [childrenAmong, own]

theorem childrenAmong_eq_nil (h : ∀ b ∈ born, b.parentId ≠ some k) (type : ResourceType) :
    childrenAmong born k type = [] := by
  rw [childrenAmong, List.map_eq_nil_iff, List.filter_eq_nil_iff]
  intro b hb
  simp [h b hb]

/-- One more birth adds a resource, and its parent adopts it. -/
theorem grown_concat (new : ∀ b' ∈ born, b'.id ≠ b.id)
    (childless : ∀ b' ∈ born ++ [b], b'.parentId ≠ some b.id) :
    grown (born ++ [b]) k =
      if k = b.id then some b.outline else (grown born k).map (Resource.Outline.adopt b k) := by
  rw [grown, List.find?_append]
  by_cases same : k = b.id
  · subst same
    have unborn : born.find? (fun b' => b'.id = b.id) = none := by
      simpa using new
    simp [unborn, childrenAmong_eq_nil childless, Resource.outline]
  · have older : [b].find? (fun b' => b'.id = k) = none := by
      simpa using Ne.symm same
    rw [if_neg same, grown, older, Option.or_none, Option.map_map]
    -- the first birth under the id stays the first, and its lists may get a child
    refine congrFun (congrArg Option.map (funext fun r => ?_)) _
    simp only [childrenAmong_concat, Resource.Outline.adopt, Function.comp_apply]
    by_cases child : b.parentId = some k
    · simp only [child, true_and, if_true]
      refine congrArg (Resource.Outline.mk _) (funext fun type => ?_)
      by_cases kind : b.type = type
      · rw [if_pos kind, if_pos kind.symm, List.append_assoc]
      · rw [if_neg kind, if_neg (Ne.symm kind), List.append_nil]
    · simp only [child, false_and, if_false, List.append_nil]

end Growth

/-! ## 4. Histories -/

/-- A store holds the resources that were born, as they grew, and no two have the same id. -/
structure Store.Grown (s : Store) (born : List Resource) : Prop where
  outlines : ∀ k, s.resources.view Resource.outline k = grown born k
  distinct : (born.map Resource.id).Nodup

namespace Store.Grown

variable {s : Store} {born : List Resource}

theorem empty : Store.Grown .empty [] where
  outlines _ := rfl
  distinct := List.nodup_nil

theorem stored (h : s.Grown born) {b : Resource} (hb : b ∈ born) :
    ∃ r, s.resources.get? b.id = some r ∧ r.lasting = b.lasting ∧
      ∀ type, r.kind.listed type = b.kind.listed type ++ childrenAmong born b.id type := by
  have first : born.find? (fun b' => b'.id = b.id) = some b := by
    have unique : Unique born fun b' => b'.id = b.id := by
      intro x hx y hy hxb hyb
      have same : x.id = y.id := (of_decide_eq_true hxb).trans (of_decide_eq_true hyb).symm
      exact List.inj_on_of_nodup_map h.distinct hx hy same
    exact (find?_eq_some_of_unique unique).2 ⟨hb, decide_eq_true rfl⟩
  have outline := h.outlines b.id
  rw [grown, first] at outline
  obtain ⟨r, hr, same⟩ := Shelf.view_eq_some.1 outline
  exact ⟨r, hr, congrArg Resource.Outline.lasting same,
    congrFun (congrArg Resource.Outline.lists same)⟩

theorem born_of_stored (h : s.Grown born) {k : ObjectId} {r : Resource}
    (hr : s.resources.get? k = some r) : ∃ b ∈ born, b.id = k := by
  have outline := h.outlines k
  rw [Shelf.view_of_get? hr] at outline
  obtain ⟨b, found, _⟩ := Option.map_eq_some_iff.1 outline.symm
  exact ⟨b, List.mem_of_find?_eq_some found, by simpa using List.find?_some found⟩

end Store.Grown

/-- A change keeps what is stored in line with the births. -/
theorem Step.grown {w v : Stage} {d : Deed} (hs : Step w d v) (tidy : w.Tidy)
    (connected : w.store.Connected) {log : List Deed} (h : w.store.Grown (births log)) :
    v.store.Grown (births (log ++ [d])) := by
  rw [births_concat]
  cases hs with
  | refused =>
    rw [show (Deed.born? ⟨_, false⟩) = none from rfl]
    simpa using h
  | @done c t performed fresh =>
    have he := Change.effect_of_perform performed
    have born : Deed.born? ⟨c, true⟩ = c.born? := rfl
    rw [born]
    rcases he.outlines_cases tidy with ⟨unborn, same⟩ | ⟨b, isBorn, new, admissible, outlines⟩
    · rw [unborn, Option.toList_none, List.append_nil]
      exact ⟨fun k => (congrFun same k).trans (h.outlines k), h.distinct⟩
    · rw [isBorn, Option.toList_some]
      have unused : w.store.resources.get? b.id = none := (tidy.unused (fresh _ new)).1
      have unborn : ∀ b' ∈ births log, b'.id ≠ b.id := by
        intro b' hb' same
        obtain ⟨r, hr, _⟩ := h.stored hb'
        rw [same, unused] at hr
        cases hr
      -- nothing stands under an id that is not in use
      have vacant : ∀ r : Resource, r.Placed w.store → r.parentId ≠ some b.id := by
        intro r placed isParent
        rw [Resource.Placed, isParent] at placed
        obtain ⟨parent, stored, _⟩ := placed
        rw [unused] at stored
        cases stored
      have childless : ∀ b' ∈ births log ++ [b], b'.parentId ≠ some b.id := by
        intro b' hb'
        rcases List.mem_append.1 hb' with hb' | hb'
        · obtain ⟨r, hr, same, _⟩ := h.stored hb'
          rw [← (Resource.eq_of_lasting same).2.1]
          exact vacant r (connected.placed _ r hr)
        · rw [List.mem_singleton.1 hb']
          exact vacant b admissible.placed
      refine ⟨fun k => ?_, ?_⟩
      · rw [outlines k, h.outlines k, grown_concat unborn childless]
      · rw [List.map_append, List.map_singleton]
        refine List.nodup_append.2 ⟨h.distinct, List.nodup_singleton _, fun i hi j hj same => ?_⟩
        obtain ⟨b', hb', rfl⟩ := List.mem_map.1 hi
        exact unborn b' hb' (same.trans (List.mem_singleton.1 hj))

/-- Every store that is reached holds the resources that were born on the way. -/
theorem Run.grown {v : Stage} {log : List Deed} (h : Run .start log v) :
    v.store.Grown (births log) := by
  induction h with
  | stay => exact .empty
  | more first last ih => exact last.grown (first.tidy .start) first.sound.connected ih

end AccessControl
