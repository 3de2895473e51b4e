/-
  AccessControl/Proofs/Store/History.lean
  =======================================
  **What a store owes to its history.**

  Much of a store can be read off the changes that were carried out.  A resource stands
  where it was made, whoever got a login keeps it, a user is in the groups that it was
  added to and in no others, and as long as nothing is set or deleted a party may do what
  was added for it, and nothing else.

  ## Main definitions

  * `Change.Makes`: the change makes a resource in a place;
  * `Deed.Adds`, `Deed.OnlyAdds`: what a deed adds, and that it does nothing else to grants.

  ## Main statements

  * `Run.parent_of_makes`, `Run.login_of_createUser`: what was made is there;
  * `Run.joined_iff`: who is in a group;
  * `Run.gives_iff`: who may do what, after a history that only adds.
-/
import AccessControl.Proofs.Store.AccessMap
import AccessControl.Proofs.Store.Connected

namespace AccessControl

/-! ## 1. Where resources stand -/

/-- The change makes a resource under a parent, or a realm under nothing. -/
inductive Change.Makes : Change → ObjectId → Option ObjectId → Prop
  | realm (id : ObjectId) (now : Timestamp) (name : String) (description : Option String) :
      Makes (createRealm id now name description) id none
  | repository (id : ObjectId) (now : Timestamp) (realmId : ObjectId) (name : String)
      (description : Option String) :
      Makes (createRepository id now realmId name description) id (some realmId)
  | resource (id : ObjectId) (now : Timestamp) (parentId : ObjectId) (name : String)
      (description : Option String) (kind : ResourceKind) :
      Makes (createResource id now parentId name description kind) id (some parentId)

section OneStep

variable {w v : Stage} {d : Deed}

theorem Change.Effect.parent_of_createResource {s t : Store} {ids : List ObjectId}
    {id parentId : ObjectId} {now : Timestamp} {name : String} {description : Option String}
    {kind : ResourceKind} (tidy : Stage.Tidy ⟨s, ids⟩)
    (he : (createResource id now parentId name description kind).Effect s t) :
    t.resources.view Resource.parentId id = some (some parentId) := by
  cases he with
  | @resource _ _ _ _ _ _ _ parent _ above =>
    refine (Shelf.view_of_get? (Shelf.get?_put_self _ _ _)).trans ?_
    exact congrArg (some ∘ some) (tidy.resources _ _ above)
  | remask asks => cases asks
  | grant asks => cases asks

/-- What is made stands where it is to stand. -/
theorem Step.parent_of_makes {c : Change} (hs : Step w ⟨c, true⟩ v) (tidy : w.Tidy)
    {i : ObjectId} {parentId : Option ObjectId} (makes : c.Makes i parentId) :
    v.store.resources.view Resource.parentId i = some parentId := by
  cases hs with
  | done performed _ =>
    have he := Change.effect_of_perform performed
    cases makes with
    | realm =>
      cases he with
      | realm => exact Shelf.view_of_get? (Shelf.get?_put_self _ _ _)
      | remask asks => cases asks
      | grant asks => cases asks
    | repository =>
      cases he with
      | repository made => exact made.parent_of_createResource tidy
      | remask asks => cases asks
      | grant asks => cases asks
    | resource => exact he.parent_of_createResource tidy

theorem Step.parent_lasts (hs : Step w d v) (tidy : w.Tidy) {i : ObjectId}
    {parentId : Option ObjectId}
    (before : w.store.resources.view Resource.parentId i = some parentId) :
    v.store.resources.view Resource.parentId i = some parentId := by
  obtain ⟨r, hr, above⟩ := Shelf.view_eq_some.1 before
  obtain ⟨r', hr', same⟩ := hs.resource_lasts tidy hr
  refine (Shelf.view_of_get? hr').trans ?_
  rw [← above]
  exact congrArg some (congrArg Resource.Lasting.parentId same)

/-! ## 2. Logins -/

theorem Step.login_lasts (hs : Step w d v) {login : UserId} {i : ObjectId}
    (before : w.store.logins.get? login = some i) : v.store.logins.get? login = some i := by
  cases hs with
  | refused => exact before
  | done performed _ =>
    have lasts : ∀ {c : Change} {s t : Store}, c.Effect s t →
        s.logins.get? login = some i → t.logins.get? login = some i := by
      intro c s t he held
      induction he with
      | repository _ ih => exact ih
      | user free =>
        rw [Shelf.get?_put_of_ne _ _ ?_]
        · exact held
        · rintro rfl
          rw [held] at free
          cases free
      | _ => exact held
    exact lasts (Change.effect_of_perform performed) before

theorem Step.login_of_createUser {id realmId : ObjectId} {now : Timestamp} {login : UserId}
    {name passwordHash : String}
    (hs : Step w ⟨.createUser id now realmId login name passwordHash, true⟩ v) :
    v.store.logins.get? login = some id := by
  cases hs with
  | done performed _ =>
    cases Change.effect_of_perform performed with
    | user => exact Shelf.get?_put_self _ _ _
    | remask asks => cases asks
    | grant asks => cases asks

end OneStep

/-! ## 3. Along a history -/

section Runs

variable {w v : Stage} {log : List Deed}

/-- What a step brings about, and all steps keep, is there after every history with such a
    step. -/
theorem Run.of_mem {P : Stage → Prop} {d : Deed} (h : Run w log v) (tidy : w.Tidy)
    (hd : d ∈ log) (brings : ∀ {x y : Stage}, x.Tidy → Step x d y → P y)
    (keeps : ∀ {x y : Stage} {d' : Deed}, x.Tidy → Step x d' y → P x → P y) : P v := by
  induction h with
  | stay => cases hd
  | more first last ih =>
    have between := first.tidy tidy
    rcases List.mem_append.1 hd with earlier | latest
    · exact keeps between last (ih earlier)
    · cases List.mem_singleton.1 latest
      exact brings between last

theorem Run.parent_of_makes (h : Run w log v) (tidy : w.Tidy) {c : Change}
    (hd : ⟨c, true⟩ ∈ log) {i : ObjectId} {parentId : Option ObjectId}
    (makes : c.Makes i parentId) :
    v.store.resources.view Resource.parentId i = some parentId :=
  h.of_mem (P := fun x => x.store.resources.view Resource.parentId i = some parentId) tidy hd
    (fun hx hs => hs.parent_of_makes hx makes) (fun hx hs before => hs.parent_lasts hx before)

theorem Run.login_of_createUser (h : Run w log v) (tidy : w.Tidy) {id realmId : ObjectId}
    {now : Timestamp} {login : UserId} {name passwordHash : String}
    (hd : ⟨.createUser id now realmId login name passwordHash, true⟩ ∈ log) :
    v.store.logins.get? login = some id :=
  h.of_mem (P := fun x => x.store.logins.get? login = some id) tidy hd
    (fun _ hs => hs.login_of_createUser) (fun _ hs before => hs.login_lasts before)

/-- A party is in the groups that it was added to. -/
theorem Run.joined_iff (h : Run .start log v) (i k : ObjectId) :
    (∃ groups, v.store.parties.view Party.groupIds i = some groups ∧ k ∈ groups) ↔
      ⟨.addUserToGroup i k, true⟩ ∈ log := by
  induction h with
  | stay =>
    constructor
    · rintro ⟨_, absent, _⟩
      cases absent
    · intro hd
      cases hd
  | more first last ih =>
    rw [List.mem_append, List.mem_singleton, ← ih]
    cases last with
    | refused =>
      refine ⟨Or.inl, fun known => ?_⟩
      rcases known with before | same
      · exact before
      · cases same
    | @done c t performed fresh =>
      have he := Change.effect_of_perform performed
      rcases he.groups_lasting i with ⟨same, other⟩ | ⟨new, alone⟩ | ⟨_, _, old, rfl, _, hold, more⟩
      · -- nobody joins, and the party is not new
        rw [same]
        refine ⟨Or.inl, fun known => ?_⟩
        rcases known with before | now
        · exact before
        · exact absurd (congrArg Deed.change now).symm (other k)
      · -- who is new was not there to be added before
        have absent := ((first.tidy .start).unused (fresh i new)).2.1
        constructor
        · rintro ⟨groups, hgroups, hk⟩
          rw [alone] at hgroups
          cases hgroups
          cases hk
        · rintro (⟨groups, hgroups, _⟩ | now)
          · rw [Shelf.view, absent] at hgroups
            cases hgroups
          · cases now
            cases new
      · -- the party joins one more group
        rw [hold, more]
        constructor
        · rintro ⟨groups, hgroups, hk⟩
          cases hgroups
          rcases ObjectId.mem_append.1 hk with before | rfl
          · exact Or.inl ⟨old, rfl, before⟩
          · exact Or.inr rfl
        · rintro (⟨groups, hgroups, hk⟩ | now)
          · cases hgroups
            exact ⟨_, rfl, ObjectId.mem_append.2 (Or.inl hk)⟩
          · cases now
            exact ⟨_, rfl, ObjectId.mem_append.2 (Or.inr rfl)⟩

end Runs

/-! ## 4. Histories that only add -/

/-- The deed gives a permission for a pair. -/
def Deed.Adds (d : Deed) (r c : ObjectId) (p : Permission) : Prop :=
  ∃ id mask, d = ⟨.addAccess id r c mask, true⟩ ∧ mask.contains p = true

/-- The deed sets and deletes nothing. -/
def Deed.OnlyAdds (d : Deed) : Prop :=
  (∀ id r c mask, d.change ≠ .setAccess id r c mask) ∧ ∀ r c, d.change ≠ .deleteAccess r c

/-- After a history that only adds, a party may do what was added for it. -/
theorem Run.gives_iff {log : List Deed} {v : Stage} (h : Run .start log v)
    (adding : ∀ d ∈ log, d.OnlyAdds) (r c : ObjectId) (p : Permission) :
    v.store.accessMap.Gives r c p ↔ ∃ d ∈ log, d.Adds r c p := by
  have gives : ∀ d ∈ log, (d.Gives r c p ↔ d.Adds r c p) := by
    intro d hd
    constructor
    · rintro ⟨id, mask, holds, rfl | rfl⟩
      · exact absurd rfl ((adding _ hd).1 id r c mask)
      · exact ⟨id, mask, rfl, holds⟩
    · rintro ⟨id, mask, rfl, holds⟩
      exact ⟨id, mask, holds, Or.inr rfl⟩
  have keeps : ∀ d ∈ log, ¬d.Takes r c p := by
    rintro d hd (⟨id, mask, _, rfl⟩ | rfl)
    · exact (adding _ hd).1 id r c mask rfl
    · exact (adding _ hd).2 r c rfl
  rw [h.gives_iff_stands]
  constructor
  · rintro ⟨before, d, after, rfl, given, _⟩
    exact ⟨d, by simp, (gives d (by simp)).1 given⟩
  · rintro ⟨d, hd, adds⟩
    obtain ⟨before, after, rfl⟩ := List.append_of_mem hd
    exact ⟨before, d, after, rfl, (gives d hd).2 adds, fun d' hd' => keeps d' (by simp [hd'])⟩

end AccessControl
