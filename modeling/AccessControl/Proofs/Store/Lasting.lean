/-
  AccessControl/Proofs/Store/Lasting.lean
  =======================================
  **What lasts: what no change alters about a resource or a party.**

  Resources and parties are never removed.  A resource keeps its id, name, description,
  date, parent and kind; a party keeps its id, name, realm and date, a user its login and the
  digest of its password, and a group its description.  What changes is what they list.

  All is said as an equation between views of the store before and after a change, for all
  ids but the new one, so that it can be read in both directions: what was there is there
  still (`resource_lasts`, `party_lasts`), and what is there was there, unless it is new.

  ## Main definitions

  * `Resource.lasting`, `Party.lasting`: what no change alters;
  * `Resource.Placed`: a resource has the parent that it needs.

  ## Main statements

  * `resources_lasting`, `parties_lasting`: a change alters nothing else than lists, and
    adds nothing else than the new object;
  * `groups_lasting`: nobody joins a group but by being added to it;
  * `resource_lasts`, `party_lasts`, `group_lasts`: what is stored stays;
  * `Step.resource_lasts`, `Step.party_lasts`: also along a history.
-/
import AccessControl.Proofs.Store.Keys

namespace AccessControl

/-! ## 1. What lasts -/

structure Resource.Lasting where
  id : ObjectId
  name : String
  description : Option String
  createdAt : Timestamp
  parentId : Option ObjectId
  type : ResourceType

/-- What lasts of a resource. -/
def Resource.lasting (r : Resource) : Resource.Lasting :=
  ⟨r.id, r.name, r.description, r.createdAt, r.parentId, r.type⟩

def Party.description : Party → Option String
  | .user _ => none
  | .group g => g.description

structure Party.Lasting where
  id : ObjectId
  name : String
  realmId : ObjectId
  createdAt : Timestamp
  active : Bool
  account : Option (UserId × String)
  description : Option String

/-- What lasts of a party. -/
def Party.lasting (p : Party) : Party.Lasting :=
  ⟨p.info.id, p.info.name, p.info.realmId, p.info.createdAt, p.info.active,
    p.user?.map fun u => (u.userId, u.passwordHash), p.description⟩

theorem Party.lasting_attach (p : Party) (k : ObjectId) : (p.attach k).lasting = p.lasting := by
  cases p <;> rfl

theorem Party.lasting_detach (p : Party) (k : ObjectId) : (p.detach k).lasting = p.lasting := by
  cases p <;> rfl

/-- The parent of the resource is stored and is of the kind that the resource needs. -/
def Resource.Placed (s : Store) (r : Resource) : Prop :=
  match r.parentId with
  | none => r.type.parentType? = none
  | some parentId =>
    ∃ parent, s.resources.get? parentId = some parent ∧ r.type.parentType? = some parent.type

/-! ## 2. Before and after a change -/

namespace Change.Effect

variable {c : Change} {s t : Store} {ids : List ObjectId}

/-- What lasts of a resource is as before, unless the resource is new; then it has its
    place. -/
theorem resources_lasting (he : c.Effect s t) (tidy : Stage.Tidy ⟨s, ids⟩) (i : ObjectId) :
    t.resources.view Resource.lasting i = s.resources.view Resource.lasting i ∨
      c.newId? s = some i ∧ ∃ r, t.resources.get? i = some r ∧ r.Placed s := by
  induction he with
  | @realm id =>
    by_cases new : i = id
    · subst new
      exact Or.inr ⟨rfl, _, Shelf.get?_put_self _ _ _, rfl⟩
    · exact Or.inl ((Shelf.view_put _ _ _).trans (if_neg new))
  | @resource id parentId _ _ _ kind adopted parent _ above fits lists =>
    have own : parent.id = parentId := tidy.resources _ _ above
    rw [← own] at above
    by_cases new : i = id
    · subst new
      exact Or.inr ⟨rfl, _, Shelf.get?_put_self _ _ _, parent, above, fits⟩
    · refine Or.inl ((Shelf.view_put _ _ _).trans ((if_neg new).trans ?_))
      -- the parent lists one more child, and is of the same kind as before
      have same : ({ parent with kind := adopted } : Resource).lasting = parent.lasting := by
        simp [Resource.lasting, Resource.type, ResourceKind.type_adopt lists]
      exact congrFun (Shelf.view_put_same above same) i
  | repository _ ih => exact ih
  | user _ home isRealm =>
    refine Or.inl (congrFun (Shelf.view_put_same home ?_) i)
    simp [Resource.lasting, Resource.type, isRealm, ResourceKind.type]
  | group home isRealm =>
    refine Or.inl (congrFun (Shelf.view_put_same home ?_) i)
    simp [Resource.lasting, Resource.type, isRealm, ResourceKind.type]
  | member => exact Or.inl rfl
  | remask => exact Or.inl rfl
  | grant _ hr =>
    refine Or.inl (congrFun (Shelf.view_put_same hr ?_) i)
    rfl
  | @revoke resourceId =>
    rcases found : s.resources.get? resourceId with _ | r
    · exact Or.inl rfl
    · refine Or.inl (congrFun (Shelf.view_put_same found ?_) i)
      rfl
  | attempt => exact Or.inl rfl

/-- What lasts of a party is as before, unless the party is new. -/
theorem parties_lasting (he : c.Effect s t) (i : ObjectId) :
    t.parties.view Party.lasting i = s.parties.view Party.lasting i ∨ c.newId? s = some i := by
  induction he with
  | realm => exact Or.inl rfl
  | resource => exact Or.inl rfl
  | repository _ ih => exact ih
  | @user id =>
    by_cases new : i = id
    · exact Or.inr (congrArg some new.symm)
    · exact Or.inl ((Shelf.view_put _ _ _).trans (if_neg new))
  | @group id =>
    by_cases new : i = id
    · exact Or.inr (congrArg some new.symm)
    · exact Or.inl ((Shelf.view_put _ _ _).trans (if_neg new))
  | @member userObject groupId u g hu hg _ =>
    have hg' := group_stays hu hg (.user
      { u with groupIds := ObjectId.append u.groupIds groupId })
    -- first the user is put back, then the group
    refine Or.inl ((congrFun (Shelf.view_put_same hg' ?_) i).trans
      (congrFun (Shelf.view_put_same hu ?_) i))
    · rfl
    · rfl
  | remask => exact Or.inl rfl
  | grant _ _ hp => exact Or.inl (congrFun (Shelf.view_put_same hp (Party.lasting_attach _ _)) i)
  | @revoke _ partyId =>
    rcases found : s.parties.get? partyId with _ | p
    · exact Or.inl rfl
    · exact Or.inl (congrFun (Shelf.view_put_same found (Party.lasting_detach _ _)) i)
  | attempt hu =>
    refine Or.inl (congrFun (Shelf.view_put_same hu ?_) i)
    rfl

/-- The groups of a party are as before, unless the party is new or joins a group. -/
theorem groups_lasting (he : c.Effect s t) (i : ObjectId) :
    t.parties.view Party.groupIds i = s.parties.view Party.groupIds i ∧
        (∀ groupId, c ≠ addUserToGroup i groupId) ∨
      c.newId? s = some i ∧ t.parties.view Party.groupIds i = some [] ∨
      ∃ groupId g groups, c = addUserToGroup i groupId ∧
        s.parties.get? groupId = some (.group g) ∧
        s.parties.view Party.groupIds i = some groups ∧
        t.parties.view Party.groupIds i = some (ObjectId.append groups groupId) := by
  induction he with
  | realm => exact Or.inl ⟨rfl, fun _ => nofun⟩
  | resource => exact Or.inl ⟨rfl, fun _ => nofun⟩
  | repository _ ih =>
    rcases ih with ⟨same, _⟩ | ⟨new, alone⟩ | ⟨_, _, _, asked, _⟩
    · exact Or.inl ⟨same, fun _ => nofun⟩
    · exact Or.inr (Or.inl ⟨new, alone⟩)
    · cases asked
  | @user id =>
    by_cases new : i = id
    · subst new
      exact Or.inr (Or.inl ⟨rfl, Shelf.view_of_get? (Shelf.get?_put_self _ _ _)⟩)
    · exact Or.inl ⟨(Shelf.view_put _ _ _).trans (if_neg new), fun _ => nofun⟩
  | @group id =>
    by_cases new : i = id
    · subst new
      exact Or.inr (Or.inl ⟨rfl, Shelf.view_of_get? (Shelf.get?_put_self _ _ _)⟩)
    · exact Or.inl ⟨(Shelf.view_put _ _ _).trans (if_neg new), fun _ => nofun⟩
  | @member userObject groupId u g hu hg _ =>
    have hg' := group_stays hu hg (.user
      { u with groupIds := ObjectId.append u.groupIds groupId })
    -- the group that is put back is in no group, as before
    have afterwards : ∀ g', Party.groupIds (.group g') = Party.groupIds (.group g) := fun _ => rfl
    by_cases joins : i = userObject
    · subst joins
      refine Or.inr (Or.inr ⟨groupId, g, u.groupIds, rfl, hg, Shelf.view_of_get? hu, ?_⟩)
      refine (congrFun (Shelf.view_put_same hg' (afterwards _)) i).trans ?_
      exact (Shelf.view_put _ _ _).trans (if_pos rfl)
    · refine Or.inl ⟨(congrFun (Shelf.view_put_same hg' (afterwards _)) i).trans ?_, ?_⟩
      · exact (Shelf.view_put _ _ _).trans (if_neg joins)
      · rintro groupId' ⟨⟩
        exact joins rfl
  | remask asks => exact Or.inl ⟨rfl, fun _ same => nomatch same ▸ asks⟩
  | grant asks _ hp =>
    refine Or.inl ⟨congrFun (Shelf.view_put_same hp (Party.groupIds_withInfo _ _)) i, ?_⟩
    exact fun _ same => nomatch same ▸ asks
  | @revoke _ partyId =>
    refine Or.inl ⟨?_, fun _ => nofun⟩
    rcases found : s.parties.get? partyId with _ | p
    · rfl
    · exact congrFun (Shelf.view_put_same found (Party.groupIds_withInfo _ _)) i
  | attempt hu =>
    refine Or.inl ⟨congrFun (Shelf.view_put_same hu ?_) i, fun _ => nofun⟩
    rfl

/-! ## 3. What is stored stays -/

/-- A resource that is stored stays. -/
theorem resource_lasts (he : c.Effect s t) (tidy : Stage.Tidy ⟨s, ids⟩)
    (unused : ∀ id, c.newId? s = some id → s.resources.get? id = none) {i : ObjectId}
    {r : Resource} (hr : s.resources.get? i = some r) :
    ∃ r', t.resources.get? i = some r' ∧ r'.lasting = r.lasting := by
  rcases he.resources_lasting tidy i with same | ⟨new, _⟩
  · rw [Shelf.view_of_get? hr] at same
    exact Shelf.view_eq_some.1 same
  · rw [unused i new] at hr
    cases hr

/-- A party that is stored stays. -/
theorem party_lasts (he : c.Effect s t)
    (unused : ∀ id, c.newId? s = some id → s.parties.get? id = none) {i : ObjectId} {p : Party}
    (hp : s.parties.get? i = some p) :
    ∃ p', t.parties.get? i = some p' ∧ p'.lasting = p.lasting := by
  rcases he.parties_lasting i with same | new
  · rw [Shelf.view_of_get? hp] at same
    exact Shelf.view_eq_some.1 same
  · rw [unused i new] at hp
    cases hp

/-- A group that is stored stays a group. -/
theorem group_lasts (he : c.Effect s t)
    (unused : ∀ id, c.newId? s = some id → s.parties.get? id = none) {i : ObjectId} {g : Group}
    (hg : s.parties.get? i = some (.group g)) : ∃ g', t.parties.get? i = some (.group g') := by
  obtain ⟨p, hp, same⟩ := he.party_lasts unused hg
  cases p with
  | user u => cases congrArg Party.Lasting.account same
  | group g' => exact ⟨g', hp⟩

end Change.Effect

/-! ## 4. Steps -/

section Steps

variable {w v : Stage} {d : Deed}

theorem Step.resource_lasts (hs : Step w d v) (tidy : w.Tidy) {i : ObjectId} {r : Resource}
    (hr : w.store.resources.get? i = some r) :
    ∃ r', v.store.resources.get? i = some r' ∧ r'.lasting = r.lasting := by
  cases hs with
  | refused => exact ⟨r, hr, rfl⟩
  | done performed fresh =>
    exact (Change.effect_of_perform performed).resource_lasts tidy
      (fun id hid => (tidy.unused (fresh id hid)).1) hr

theorem Step.party_lasts (hs : Step w d v) (tidy : w.Tidy) {i : ObjectId} {p : Party}
    (hp : w.store.parties.get? i = some p) :
    ∃ p', v.store.parties.get? i = some p' ∧ p'.lasting = p.lasting := by
  cases hs with
  | refused => exact ⟨p, hp, rfl⟩
  | done performed fresh =>
    exact (Change.effect_of_perform performed).party_lasts
      (fun id hid => (tidy.unused (fresh id hid)).2.1) hp

end Steps

end AccessControl
