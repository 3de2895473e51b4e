/-
  AccessControl/Proofs/Store/Tree.lean
  ====================================
  **The trees of resources.**

  Every resource of a store that can be reached stands in a tree under exactly one realm, no
  more than two levels below it.  A child refers to its parent, and the parent lists the
  child, once and in the order in which the children were made.  No two realms have the same
  name, the name of every image is valid, and no resource is ever moved, renamed or removed.

  Where a resource stands and what it lists is known from the births (`Run.grown`).  Names
  are checked when a resource is made, and never change (`resource_origin`).

  ## Main definitions

  * `ResourceType.depth`: how far below its realm a resource stands;
  * `Store.Climbs`: going up from parent to parent, to the root;
  * `Store.WellNamed`: the names of realms and images are as they should be.

  ## Main statements

  * `climbs_of_stored`, `Climbs.unique`: every resource stands under one realm;
  * `child_iff`: the children that were born are the children that are stored;
  * `Step.wellNamed`: names stay as they should be;
  * `resources_form_trees`: all of it, for every store that can be reached.
-/
import AccessControl.Proofs.Store.Births

namespace AccessControl

/-! ## 1. Going up -/

/-- How far below its realm a resource stands. -/
def ResourceType.depth : ResourceType → Nat
  | .realm => 0
  | .repository => 1
  | .dockerfile | .dockerImage | .scanConfig | .flag => 2

theorem ResourceType.depth_le (type : ResourceType) : type.depth ≤ 2 := by
  cases type <;> decide

theorem ResourceType.depth_eq {child parent : ResourceType}
    (h : child.parentType? = some parent) : child.depth = parent.depth + 1 := by
  cases child <;> cases h <;> rfl

theorem ResourceType.parentType?_eq_none {type : ResourceType} :
    type.parentType? = none ↔ type = .realm := by
  cases type <;> simp [parentType?]

/-- A resource that has its place is a realm without parent, or its parent is stored and is
    of the kind that it needs. -/
theorem Resource.Placed.elim {s : Store} {r : Resource} (h : r.Placed s) :
    r.parentId = none ∧ r.type = .realm ∨
      ∃ parentId parent, r.parentId = some parentId ∧
        s.resources.get? parentId = some parent ∧ r.type.parentType? = some parent.type := by
  rcases above : r.parentId with _ | parentId
  · rw [Placed, above] at h
    exact Or.inl ⟨rfl, ResourceType.parentType?_eq_none.1 h⟩
  · rw [Placed, above] at h
    obtain ⟨parent, stored, fits⟩ := h
    exact Or.inr ⟨parentId, parent, rfl, stored, fits⟩

theorem Resource.Placed.realm_iff {s : Store} {r : Resource} (h : r.Placed s) :
    r.type = .realm ↔ r.parentId = none := by
  rcases h.elim with ⟨isRoot, isRealm⟩ | ⟨parentId, parent, above, _, fits⟩
  · simp [isRoot, isRealm]
  · rw [above, ← ResourceType.parentType?_eq_none, fits]
    simp

namespace Store

variable {s : Store}

/-- Going up from a resource, from parent to parent, leads in some number of hops to a
    resource without a parent. -/
inductive Climbs (s : Store) : Resource → Nat → Resource → Prop
  | top {r : Resource} (root : r.parentId = none) : Climbs s r 0 r
  | up {r parent root : Resource} {parentId : ObjectId} {n : Nat}
      (above : r.parentId = some parentId) (stored : s.resources.get? parentId = some parent)
      (later : Climbs s parent n root) : Climbs s r (n + 1) root

/-- There is only one way up. -/
theorem Climbs.unique {r root root' : Resource} {n n' : Nat} (h : s.Climbs r n root)
    (h' : s.Climbs r n' root') : n' = n ∧ root' = root := by
  induction h generalizing n' with
  | top isRoot =>
    cases h' with
    | top => exact ⟨rfl, rfl⟩
    | up above =>
      rw [isRoot] at above
      cases above
  | up above stored _ ih =>
    cases h' with
    | top isRoot =>
      rw [isRoot] at above
      cases above
    | up above' stored' later' =>
      rw [above] at above'
      cases above'
      rw [stored] at stored'
      cases stored'
      obtain ⟨rfl, rfl⟩ := ih later'
      exact ⟨rfl, rfl⟩

/-- It leads to a realm, and is as long as the depth of the resource says. -/
theorem climbs_of_stored (placed : ∀ i r, s.resources.get? i = some r → r.Placed s)
    {i : ObjectId} {r : Resource} (hr : s.resources.get? i = some r) :
    ∃ root k, s.Climbs r r.type.depth root ∧ root.type = .realm ∧
      s.resources.get? k = some root := by
  -- by induction on the depth, which is one less for the parent
  generalize depth : r.type.depth = n
  induction n generalizing i r with
  | zero =>
    rcases (placed i r hr).elim with ⟨isRoot, isRealm⟩ | ⟨_, _, _, _, fits⟩
    · exact ⟨r, i, .top isRoot, isRealm, hr⟩
    · rw [ResourceType.depth_eq fits] at depth
      cases depth
  | succ n ih =>
    rcases (placed i r hr).elim with ⟨_, isRealm⟩ | ⟨parentId, parent, above, stored, fits⟩
    · rw [isRealm] at depth
      cases depth
    · rw [ResourceType.depth_eq fits] at depth
      obtain ⟨root, k, climbs, isRealm, hk⟩ := ih stored (Nat.succ.inj depth)
      exact ⟨root, k, .up above stored climbs, isRealm, hk⟩

/-! ## 2. Children -/

/-- The children that were born to a resource are those that are stored. -/
theorem Grown.child_iff {born : List Resource} (h : s.Grown born) {i k : ObjectId}
    {type : ResourceType} :
    k ∈ childrenAmong born i type ↔
      ∃ child, s.resources.get? k = some child ∧ child.parentId = some i ∧ child.type = type := by
  constructor
  · intro hk
    obtain ⟨b, hb, rfl⟩ := List.mem_map.1 hk
    obtain ⟨hb, isChild⟩ := List.mem_filter.1 hb
    obtain ⟨above, kind⟩ := of_decide_eq_true isChild
    obtain ⟨r, hr, same, _⟩ := h.stored hb
    obtain ⟨_, parent, type⟩ := Resource.eq_of_lasting same
    exact ⟨r, hr, parent.trans above, type.trans kind⟩
  · rintro ⟨r, hr, above, kind⟩
    obtain ⟨b, hb, rfl⟩ := h.born_of_stored hr
    obtain ⟨r', hr', same, _⟩ := h.stored hb
    rw [hr] at hr'
    cases hr'
    obtain ⟨_, parent, type⟩ := Resource.eq_of_lasting same
    refine List.mem_map.2 ⟨b, List.mem_filter.2 ⟨hb, decide_eq_true ⟨?_, ?_⟩⟩, rfl⟩
    · exact parent.symm.trans above
    · exact type.symm.trans kind

theorem Grown.nodup_children {born : List Resource} (h : s.Grown born) (i : ObjectId)
    (type : ResourceType) : (childrenAmong born i type).Nodup :=
  h.distinct.sublist (List.filter_sublist.map Resource.id)

/-! ## 3. Names -/

/-- No two realms have the same name, and images have valid names. -/
structure WellNamed (s : Store) : Prop where
  realms : ∀ i j r r', s.resources.get? i = some r → s.resources.get? j = some r' →
    r.type = .realm → r'.type = .realm → r.name = r'.name → i = j
  images : ∀ i r, s.resources.get? i = some r → r.type = .dockerImage →
    ImageName.check r.name = .ok ()

theorem WellNamed.empty : WellNamed .empty where
  realms _ _ _ _ h := by cases h
  images _ _ h := by cases h

theorem ne_of_hasRealm {name : String} (free : s.hasRealm name = false) {i : ObjectId}
    {r : Resource} (hr : s.resources.get? i = some r) (isRealm : r.type = .realm) :
    r.name ≠ name := by
  intro same
  have taken : s.hasRealm name = true := by
    refine List.any_eq_true.2 ⟨r, Shelf.mem_values.2 ⟨i, hr⟩, ?_⟩
    simp [isRealm, same]
  rw [free] at taken
  cases taken

theorem check_of_checkName {name : String} {kind : ResourceKind}
    (named : checkName name kind = .ok ()) (image : kind.type = .dockerImage) :
    ImageName.check name = .ok () := by
  rw [checkName, if_pos image] at named
  exact mapError_eq_ok.1 named

end Store

namespace Change.Effect

variable {c : Change} {s t : Store} {ids : List ObjectId}

/-- What is stored after a change was stored before, or was born. -/
theorem resource_origin (he : c.Effect s t) (tidy : Stage.Tidy ⟨s, ids⟩) {i : ObjectId}
    {r : Resource} (hr : t.resources.get? i = some r) :
    (∃ r', s.resources.get? i = some r' ∧ r'.lasting = r.lasting) ∨
      ∃ b, c.born? = some b ∧ i = b.id ∧ b.Admissible s ∧ b.lasting = r.lasting := by
  have outline := Shelf.view_of_get? (f := Resource.outline) hr
  rcases he.outlines_cases tidy with ⟨_, same⟩ | ⟨b, isBorn, _, admissible, outlines⟩
  · rw [same] at outline
    obtain ⟨r', hr', same⟩ := Shelf.view_eq_some.1 outline
    exact Or.inl ⟨r', hr', congrArg Resource.Outline.lasting same⟩
  · rw [outlines] at outline
    by_cases new : i = b.id
    · rw [if_pos new] at outline
      exact Or.inr ⟨b, isBorn, new, admissible,
        congrArg Resource.Outline.lasting (Option.some.inj outline)⟩
    · rw [if_neg new] at outline
      obtain ⟨o, before, adopted⟩ := Option.map_eq_some_iff.1 outline
      obtain ⟨r', hr', rfl⟩ := Shelf.view_eq_some.1 before
      have lasting := congrArg Resource.Outline.lasting adopted
      rw [Resource.Outline.lasting_adopt] at lasting
      exact Or.inl ⟨r', hr', lasting⟩

end Change.Effect

section Steps

variable {w v : Stage} {d : Deed}

/-- A change keeps names as they should be. -/
theorem Step.wellNamed (hs : Step w d v) (tidy : w.Tidy) (h : w.store.WellNamed) :
    v.store.WellNamed := by
  cases hs with
  | refused => exact h
  | @done c t performed =>
    have he := Change.effect_of_perform performed
    -- a realm that is born has another name than any that is there
    have clash : ∀ i (a b : Resource), w.store.resources.get? i = some a → b.Admissible w.store →
        a.type = .realm → b.type = .realm → a.name ≠ b.name :=
      fun i a b ha admissible isRealm isRealm' =>
        Store.ne_of_hasRealm (admissible.free isRealm') ha isRealm
    refine ⟨fun i j r r' hr hr' isRealm isRealm' same => ?_, fun i r hr image => ?_⟩
    · rcases he.resource_origin tidy hr with ⟨a, ha, like⟩ | ⟨b, born, hi, admissible, like⟩
      · obtain ⟨name, _, type⟩ := Resource.eq_of_lasting like
        rcases he.resource_origin tidy hr' with ⟨a', ha', like'⟩ | ⟨b', _, _, admissible', like'⟩
        · obtain ⟨name', _, type'⟩ := Resource.eq_of_lasting like'
          exact h.realms i j a a' ha ha' (type.trans isRealm) (type'.trans isRealm')
            (name.trans (same.trans name'.symm))
        · obtain ⟨name', _, type'⟩ := Resource.eq_of_lasting like'
          exact absurd (name.trans (same.trans name'.symm))
            (clash i a b' ha admissible' (type.trans isRealm) (type'.trans isRealm'))
      · obtain ⟨name, _, type⟩ := Resource.eq_of_lasting like
        rcases he.resource_origin tidy hr' with ⟨a', ha', like'⟩ | ⟨b', born', hj, _, _⟩
        · obtain ⟨name', _, type'⟩ := Resource.eq_of_lasting like'
          exact absurd (name'.trans (same.symm.trans name.symm))
            (clash j a' b ha' admissible (type'.trans isRealm') (type.trans isRealm))
        · rw [born] at born'
          cases born'
          exact hi.trans hj.symm
    · rcases he.resource_origin tidy hr with ⟨a, ha, like⟩ | ⟨b, _, _, admissible, like⟩
      · obtain ⟨name, _, type⟩ := Resource.eq_of_lasting like
        rw [← name]
        exact h.images i a ha (type.trans image)
      · obtain ⟨name, _, type⟩ := Resource.eq_of_lasting like
        rw [← name]
        exact Store.check_of_checkName admissible.named (type.trans image)

theorem Run.wellNamed {log : List Deed} (h : Run .start log v) : v.store.WellNamed := by
  induction h with
  | stay => exact .empty
  | more first last ih => exact last.wellNamed (first.tidy .start) ih

theorem Run.resource_lasts {log : List Deed} (h : Run w log v) (tidy : w.Tidy) {i : ObjectId}
    {r : Resource} (hr : w.store.resources.get? i = some r) :
    ∃ r', v.store.resources.get? i = some r' ∧ r'.lasting = r.lasting := by
  induction h with
  | stay => exact ⟨r, hr, rfl⟩
  | more first last ih =>
    obtain ⟨r', hr', same⟩ := ih
    obtain ⟨r'', hr'', same'⟩ := last.resource_lasts (first.tidy tidy) hr'
    exact ⟨r'', hr'', same'.trans same⟩

end Steps

/-! ## 4. Stores that can be reached -/

/-- In every store that can be reached, each resource stands under its own id.  A realm has
    no parent; the parent of any other resource is stored and is of the kind that it needs,
    and the way up ends at one realm after two hops at most.  Each resource lists what it
    listed when it was made, followed by the children that were made since, in the order in
    which they were made.  These are exactly the resources of the kind that are stored with
    this parent, each once.  Images have valid names, no two realms have the same name, and
    no further change removes a resource, or alters its id, name, description, date, parent
    or kind. -/
theorem resources_form_trees {v : Stage} {log : List Deed} (run : Run .start log v) :
    (∀ i r, v.store.resources.get? i = some r →
      r.id = i ∧
      (r.type = .realm ↔ r.parentId = none) ∧
      (∀ parentId, r.parentId = some parentId →
        ∃ parent, v.store.resources.get? parentId = some parent ∧
          r.type.parentType? = some parent.type) ∧
      (∃ n root, n ≤ 2 ∧ v.store.Climbs r n root ∧ root.type = .realm ∧
        v.store.resources.get? root.id = some root ∧
        ∀ n' root', v.store.Climbs r n' root' → n' = n ∧ root' = root) ∧
      (∃ b ∈ births log, b.id = i ∧ b.lasting = r.lasting ∧
        ∀ type, r.kind.listed type = b.kind.listed type ++ childrenAmong (births log) i type) ∧
      (∀ type, (childrenAmong (births log) i type).Nodup ∧
        ∀ k, k ∈ childrenAmong (births log) i type ↔
          ∃ child, v.store.resources.get? k = some child ∧ child.parentId = some i ∧
            child.type = type) ∧
      (r.type = .dockerImage → ImageName.check r.name = .ok ())) ∧
    (∀ i j r r', v.store.resources.get? i = some r → v.store.resources.get? j = some r' →
      r.type = .realm → r'.type = .realm → r.name = r'.name → i = j) ∧
    ∀ log' v', Run v log' v' → ∀ i r, v.store.resources.get? i = some r →
      ∃ r', v'.store.resources.get? i = some r' ∧ r'.lasting = r.lasting := by
  have grown := run.grown
  have sound := run.sound
  refine ⟨fun i r hr => ?_, run.wellNamed.realms, fun log' v' later i r hr => ?_⟩
  · have placed := sound.connected.placed i r hr
    refine ⟨sound.resources i r hr, placed.realm_iff, ?_, ?_, ?_, ?_,
      run.wellNamed.images i r hr⟩
    · intro parentId above
      rw [Resource.Placed, above] at placed
      exact placed
    · obtain ⟨root, k, climbs, isRealm, hk⟩ :=
        Store.climbs_of_stored sound.connected.placed hr
      have own : root.id = k := sound.resources k root hk
      exact ⟨_, root, r.type.depth_le, climbs, isRealm, own ▸ hk, fun _ _ => climbs.unique⟩
    · obtain ⟨b, hb, rfl⟩ := grown.born_of_stored hr
      obtain ⟨r', hr', same, lists⟩ := grown.stored hb
      rw [hr] at hr'
      cases hr'
      exact ⟨b, hb, rfl, same.symm, lists⟩
    · exact fun type => ⟨grown.nodup_children i type, fun k => grown.child_iff⟩
  · exact later.resource_lasts (run.tidy .start) hr

theorem resources_form_trees_sample :
    ∃ log v r, Run .start log v ∧ v.store.resources.get? ⟨"repo"⟩ = some r ∧
      r.kind.listed .flag = [⟨"old"⟩, ⟨"first"⟩, ⟨"second"⟩] ∧
      childrenAmong (births log) ⟨"repo"⟩ .flag = [⟨"first"⟩, ⟨"second"⟩] ∧
      (∃ b ∈ births log, b.id = ⟨"repo"⟩ ∧ b.lasting = r.lasting ∧
        ∀ type, r.kind.listed type =
          b.kind.listed type ++ childrenAmong (births log) ⟨"repo"⟩ type) ∧
      ∃ n root, n ≤ 2 ∧ v.store.Climbs r n root ∧ root.type = .realm := by
  -- a repository that lists a flag from the beginning, and flags that are made in it
  let repository : RepositoryData := { RepositoryData.empty with flagIds := [⟨"old"⟩] }
  let w := Stage.start.reach
    [.createRealm ⟨"realm"⟩ ⟨0⟩ "acme" none,
     .createRealm ⟨"again"⟩ ⟨1⟩ "acme" none,
     .createResource ⟨"repo"⟩ ⟨2⟩ ⟨"realm"⟩ "app" none (.repository repository),
     .createResource ⟨"first"⟩ ⟨3⟩ ⟨"repo"⟩ "ok" none (.newFlag "ok.png"),
     .createResource ⟨"lost"⟩ ⟨4⟩ ⟨"realm"⟩ "ok" none (.newFlag "ok.png"),
     .createResource ⟨"second"⟩ ⟨5⟩ ⟨"repo"⟩ "done" none (.newFlag "done.png")]
  have run : Run .start w.1 w.2 := Stage.start.run_reach _
  have stored : w.2.store.resources.get? ⟨"repo"⟩ = some ⟨⟨"repo"⟩, "app", none, ⟨2⟩,
      some ⟨"realm"⟩, [],
      .repository { repository with flagIds := [⟨"old"⟩, ⟨"first"⟩, ⟨"second"⟩] }⟩ := by decide
  obtain ⟨all, -, -⟩ := resources_form_trees run
  obtain ⟨-, -, -, ⟨n, root, near, climbs, isRealm, -⟩, birth, -, -⟩ := all _ _ stored
  exact ⟨w.1, w.2, _, run, stored, rfl, by decide, birth, n, root, near, climbs, isRealm⟩

end AccessControl
