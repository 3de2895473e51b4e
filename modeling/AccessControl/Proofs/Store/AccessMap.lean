/-
  AccessControl/Proofs/Store/AccessMap.lean
  =========================================
  **A store as a map from pairs to permissions.**

  Apart from its back-references, its ids and everything that is not a grant, a store is a
  map that gives a resource and a party a set of permissions, or none.  A history changes
  the map in the plainest way: a grant that is set takes the place of the pair's mask,
  one that is added is united with it, one that is deleted goes, and nothing else does
  anything.  What a store finds for a pair is what the map of its history says.

  The grant of a pair keeps its id until it is deleted.  Then the id is never that of a
  grant again, since new grants draw new ids.

  ## Main definitions

  * `AccessMap`, `Deed.apply`, `AccessMap.following`: the map of a history;
  * `Deed.Grants`, `Deed.Revokes`: what makes and what ends the grant of a pair;
  * `Deed.Gives`, `Deed.Takes`: the same for one permission of the pair;
  * `Stands`, `Granted`: what a history brought about and did not take back.

  ## Main statements

  * `Step.accessMap`, `Run.accessMap`: the store's map follows the history;
  * `foldl_apply_iff`: what a history brings about and what it ends;
  * `isSome_foldl`, `Run.gives_iff_stands`: which pairs have a grant, and which permissions;
  * `Run.keeps_id`, `Run.id_gone`: the ids of grants along a history;
  * `access_refined`: all of it.
-/
import AccessControl.Proofs.Store.Linked

namespace AccessControl

/-! ## 1. What is found after a grant was put or erased -/

namespace Store.Linked

variable {s t : Store}

theorem entryFor?_put (hs : s.Linked) (ht : t.Linked) {e : AclEntry}
    (same : t.entries = s.entries.put e.id e)
    (place : ∀ e', s.entries.get? e.id = some e' →
      e'.resourceId = e.resourceId ∧ e'.partyId = e.partyId) (r p : ObjectId) :
    t.entryFor? r p = if e.resourceId = r ∧ e.partyId = p then some e else s.entryFor? r p := by
  by_cases pair : e.resourceId = r ∧ e.partyId = p
  · rw [if_pos pair, ht.entryFor?_eq_some, same]
    exact ⟨Shelf.get?_put_self _ _ _, pair⟩
  · rw [if_neg pair]
    apply Option.ext
    intro a
    rw [ht.entryFor?_eq_some, hs.entryFor?_eq_some, same, Shelf.get?_put]
    by_cases ha : a.id = e.id
    · rw [if_pos ha, ha]
      constructor
      · rintro ⟨here, named⟩
        cases here
        exact absurd named pair
      · rintro ⟨held, named⟩
        obtain ⟨hr, hp⟩ := place a held
        exact absurd ⟨hr.symm.trans named.1, hp.symm.trans named.2⟩ pair
    · rw [if_neg ha]

theorem entryFor?_erase (hs : s.Linked) (ht : t.Linked) {e : AclEntry}
    (held : s.entries.get? e.id = some e) (same : t.entries = s.entries.erase e.id)
    (r p : ObjectId) :
    t.entryFor? r p = if e.resourceId = r ∧ e.partyId = p then none else s.entryFor? r p := by
  by_cases pair : e.resourceId = r ∧ e.partyId = p
  · rw [if_pos pair, ht.entryFor?_eq_none, same]
    intro k e' he' named
    rw [Shelf.get?_erase] at he'
    by_cases hk : k = e.id
    · rw [if_pos hk] at he'
      cases he'
    · rw [if_neg hk] at he'
      exact hk (hs.single k e' e.id e he' held (named.1.trans pair.1.symm)
        (named.2.trans pair.2.symm))
  · rw [if_neg pair]
    apply Option.ext
    intro a
    rw [ht.entryFor?_eq_some, hs.entryFor?_eq_some, same, Shelf.get?_erase]
    by_cases ha : a.id = e.id
    · rw [if_pos ha, ha, held]
      constructor
      · rintro ⟨absent, _⟩
        cases absent
      · rintro ⟨same, named⟩
        cases same
        exact absurd named pair
    · rw [if_neg ha]

end Store.Linked

/-! ## 2. What a change does to the grant of a pair -/

namespace Change.Effect

variable {c : Change} {s t : Store}

/-- A grant that is set or added changes the mask of its pair, under the id that the pair
    has already or else under a new one. -/
theorem entryFor?_of_grants (he : c.Effect s t) (hs : s.Linked) (ht : t.Linked)
    {id r' p' : ObjectId} {f : Mask → Mask} (asks : c.Grants id r' p' f)
    (unused : s.entryFor? r' p' = none → s.entries.get? id = none) (r p : ObjectId) :
    t.entryFor? r p =
      if r' = r ∧ p' = p then
        some (match s.entryFor? r' p' with
          | some e => { e with mask := f e.mask }
          | none => ⟨id, r', p', f Mask.none⟩)
      else s.entryFor? r p := by
  cases he with
  | @remask _ _ _ _ _ _ _ e asks' _ _ held =>
    obtain ⟨rfl, rfl, rfl, rfl⟩ := asks.unique asks'
    obtain ⟨stored, rfl, rfl⟩ := hs.entryFor?_eq_some.1 held
    rw [held, hs.entryFor?_put (e := { e with mask := f e.mask }) ht rfl]
    intro e' he'
    rw [stored] at he'
    cases he'
    exact ⟨rfl, rfl⟩
  | grant asks' _ _ new =>
    obtain ⟨rfl, rfl, rfl, rfl⟩ := asks.unique asks'
    rw [new, hs.entryFor?_put (e := ⟨id, r', p', f Mask.none⟩) ht rfl]
    intro e' he'
    rw [unused new] at he'
    cases he'
  | _ => cases asks

theorem entryFor?_of_deleteAccess {r' p' : ObjectId} (he : (deleteAccess r' p').Effect s t)
    (hs : s.Linked) (ht : t.Linked) (r p : ObjectId) :
    t.entryFor? r p = if r' = r ∧ p' = p then none else s.entryFor? r p := by
  cases he with
  | revoke held =>
    obtain ⟨stored, rfl, rfl⟩ := hs.entryFor?_eq_some.1 held
    exact hs.entryFor?_erase ht stored rfl r p
  | remask asks => cases asks
  | grant asks => cases asks

theorem entries_eq (he : c.Effect s t) (notGrants : ∀ id r p f, ¬c.Grants id r p f)
    (notDelete : ∀ r p, c ≠ deleteAccess r p) : t.entries = s.entries := by
  induction he with
  | repository _ ih => exact ih (fun _ _ _ _ asks => nomatch asks) fun _ _ same => nomatch same
  | remask asks => exact absurd asks (notGrants _ _ _ _)
  | grant asks => exact absurd asks (notGrants _ _ _ _)
  | revoke => exact absurd rfl (notDelete _ _)
  | _ => rfl

/-- No grant comes under an id that is not in use, except under the new one. -/
theorem entries_none (he : c.Effect s t) {ids : List ObjectId} (tidy : Stage.Tidy ⟨s, ids⟩)
    {k : ObjectId} (gone : s.entries.get? k = none) (notNew : c.newId? s ≠ some k) :
    t.entries.get? k = none := by
  induction he with
  | repository _ ih => exact ih notNew
  | remask _ _ _ held =>
    have stored := tidy.get?_of_entryFor? held
    rw [Shelf.get?_put_of_ne _ _ ?_, gone]
    rintro rfl
    rw [stored] at gone
    cases gone
  | grant asks _ _ new =>
    rw [Shelf.get?_put_of_ne _ _ ?_, gone]
    rintro rfl
    exact notNew (asks.newId? new)
  | revoke _ =>
    rw [Shelf.get?_erase, gone]
    split <;> rfl
  | _ => exact gone

end Change.Effect

/-! ## 3. The map of a history -/

/-- Who holds which permissions on what. -/
def AccessMap := ObjectId → ObjectId → Option Mask

namespace AccessMap

def empty : AccessMap := fun _ _ => none

def update (a : AccessMap) (r p : ObjectId) (m : Option Mask) : AccessMap :=
  fun r' p' => if r = r' ∧ p = p' then m else a r' p'

/-- The map lets a party do something with a resource. -/
def Gives (a : AccessMap) (r c : ObjectId) (p : Permission) : Prop :=
  ∃ m, a r c = some m ∧ m.contains p = true

/-- What is added to the permissions of a pair comes to those that it has. -/
theorem gives_update {a : AccessMap} {r' c' : ObjectId} {mask : Mask} (r c : ObjectId)
    (p : Permission) :
    (a.update r' c' (some (((a r' c').getD Mask.none).union mask))).Gives r c p ↔
      a.Gives r c p ∨ (r' = r ∧ c' = c) ∧ mask.contains p = true := by
  unfold Gives update
  by_cases pair : r' = r ∧ c' = c
  · obtain ⟨rfl, rfl⟩ := pair
    cases a r' c' <;> simp
  · simp [pair]

end AccessMap

namespace Deed

/-- What a deed does to the map. -/
def apply (a : AccessMap) : Deed → AccessMap
  | ⟨.setAccess _ r p m, true⟩ => a.update r p (some m)
  | ⟨.addAccess _ r p m, true⟩ => a.update r p (some (((a r p).getD Mask.none).union m))
  | ⟨.deleteAccess r p, true⟩ => a.update r p none
  | _ => a

/-- The deed set or added something for the pair. -/
def Grants (d : Deed) (r p : ObjectId) : Prop :=
  d.done = true ∧ ∃ id f, d.change.Grants id r p f

/-- The deed deleted the grant of the pair. -/
def Revokes (d : Deed) (r p : ObjectId) : Prop := d = ⟨.deleteAccess r p, true⟩

/-- The deed gives a party a permission on a resource. -/
def Gives (d : Deed) (x c : ObjectId) (p : Permission) : Prop :=
  ∃ id mask, mask.contains p = true ∧
    (d = ⟨.setAccess id x c mask, true⟩ ∨ d = ⟨.addAccess id x c mask, true⟩)

/-- The deed leaves a party without a permission on a resource. -/
def Takes (d : Deed) (x c : ObjectId) (p : Permission) : Prop :=
  (∃ id mask, mask.contains p = false ∧ d = ⟨.setAccess id x c mask, true⟩) ∨
    d = ⟨.deleteAccess x c, true⟩

section Applied

variable {r p : ObjectId}

theorem apply_of_grants (a : AccessMap) {c : Change} {id : ObjectId} {f : Mask → Mask}
    (asks : c.Grants id r p f) :
    apply a ⟨c, true⟩ = a.update r p (some (f ((a r p).getD Mask.none))) := by
  cases asks <;> rfl

theorem apply_eq (a : AccessMap) {d : Deed} (noGrant : ¬d.Grants r p)
    (noRevoke : ¬d.Revokes r p) : d.apply a r p = a r p := by
  obtain ⟨c, _ | _⟩ := d
  · cases c <;> rfl
  · cases c with
    | setAccess id r' p' mask =>
      refine if_neg ?_
      rintro ⟨rfl, rfl⟩
      exact noGrant ⟨rfl, _, _, .set ..⟩
    | addAccess id r' p' mask =>
      refine if_neg ?_
      rintro ⟨rfl, rfl⟩
      exact noGrant ⟨rfl, _, _, .add ..⟩
    | deleteAccess r' p' =>
      refine if_neg ?_
      rintro ⟨rfl, rfl⟩
      exact noRevoke rfl
    | _ => rfl

theorem isSome_apply (a : AccessMap) {d : Deed} (grants : d.Grants r p) :
    (d.apply a r p).isSome = true := by
  obtain ⟨c, done⟩ := d
  obtain ⟨rfl, id, f, asks⟩ := grants
  rw [apply_of_grants a asks, AccessMap.update, if_pos ⟨rfl, rfl⟩]
  rfl

theorem apply_eq_none (a : AccessMap) {d : Deed} (revokes : d.Revokes r p) :
    d.apply a r p = none := by
  subst revokes
  exact if_pos ⟨rfl, rfl⟩

end Applied

end Deed

/-- One of the deeds does this, and none after it undoes it. -/
def Stands (does undoes : Deed → Prop) (log : List Deed) : Prop :=
  ∃ before d after, log = before ++ d :: after ∧ does d ∧ ∀ d' ∈ after, ¬undoes d'

/-- The pair was granted something that was not taken back later. -/
def Granted (log : List Deed) (r p : ObjectId) : Prop :=
  Stands (·.Grants r p) (·.Revokes r p) log

/-- The map after a history. -/
def AccessMap.following (log : List Deed) : AccessMap := log.foldl Deed.apply .empty

/-- The map that a store stands for. -/
def Store.accessMap (s : Store) : AccessMap := fun r p => (s.entryFor? r p).map AclEntry.mask

/-! ## 4. One step -/

section OneStep

variable {w v : Stage} {d : Deed} {r p : ObjectId}

theorem Step.entryFor?_of_grants (hs : Step w d v) (tidy : w.Tidy) (linked : w.store.Linked)
    {id r' p' : ObjectId} {f : Mask → Mask} (done : d.done = true)
    (asks : d.change.Grants id r' p' f) (r p : ObjectId) :
    v.store.entryFor? r p =
      if r' = r ∧ p' = p then
        some (match w.store.entryFor? r' p' with
          | some e => { e with mask := f e.mask }
          | none => ⟨id, r', p', f Mask.none⟩)
      else w.store.entryFor? r p := by
  have linked' := hs.linked tidy linked
  cases hs with
  | refused => cases done
  | done performed fresh =>
    refine (Change.effect_of_perform performed).entryFor?_of_grants linked linked' asks ?_ r p
    intro new
    exact (tidy.unused (fresh id (asks.newId? new))).2.2

theorem Step.entryFor?_of_revokes (hs : Step w d v) (tidy : w.Tidy) (linked : w.store.Linked)
    {r' p' : ObjectId} (deletes : d.Revokes r' p') (r p : ObjectId) :
    v.store.entryFor? r p = if r' = r ∧ p' = p then none else w.store.entryFor? r p := by
  have linked' := hs.linked tidy linked
  subst deletes
  cases hs with
  | done performed =>
    exact (Change.effect_of_perform performed).entryFor?_of_deleteAccess linked linked' r p

theorem Step.entryFor?_eq (hs : Step w d v) (tidy : w.Tidy) (linked : w.store.Linked)
    (noGrant : ¬d.Grants r p) (noRevoke : ¬d.Revokes r p) :
    v.store.entryFor? r p = w.store.entryFor? r p := by
  by_cases done : d.done = true
  -- whatever it grants or deletes belongs to another pair
  · by_cases asks : ∃ id r' p' f, d.change.Grants id r' p' f
    · obtain ⟨id, r', p', f, asks⟩ := asks
      rw [hs.entryFor?_of_grants tidy linked done asks, if_neg]
      rintro ⟨rfl, rfl⟩
      exact noGrant ⟨done, id, f, asks⟩
    · by_cases deletes : ∃ r' p', d.Revokes r' p'
      · obtain ⟨r', p', deletes⟩ := deletes
        rw [hs.entryFor?_of_revokes tidy linked deletes, if_neg]
        rintro ⟨rfl, rfl⟩
        exact noRevoke deletes
      · cases hs with
        | refused => cases done
        | done performed =>
          have same := (Change.effect_of_perform performed).entries_eq
            (fun id r p f h => asks ⟨id, r, p, f, h⟩)
            (fun r p h => deletes ⟨r, p, by rw [h, Deed.Revokes]⟩)
          simp only [Store.entryFor?, same]
  · cases hs with
    | refused => rfl
    | done => exact absurd rfl done

/-- The map of a store follows a step. -/
theorem Step.accessMap (hs : Step w d v) (tidy : w.Tidy) (linked : w.store.Linked) :
    v.store.accessMap = d.apply w.store.accessMap := by
  funext r p
  by_cases grants : d.Grants r p
  · obtain ⟨c, _⟩ := d
    obtain ⟨rfl, id, f, asks⟩ := grants
    rw [Store.accessMap, hs.entryFor?_of_grants tidy linked rfl asks, if_pos ⟨rfl, rfl⟩,
      Deed.apply_of_grants _ asks, AccessMap.update, if_pos ⟨rfl, rfl⟩, Store.accessMap]
    cases w.store.entryFor? r p <;> rfl
  · by_cases revokes : d.Revokes r p
    · rw [Store.accessMap, hs.entryFor?_of_revokes tidy linked revokes, if_pos ⟨rfl, rfl⟩,
        Deed.apply_eq_none _ revokes]
      rfl
    · rw [Store.accessMap, hs.entryFor?_eq tidy linked grants revokes,
        Deed.apply_eq _ grants revokes, Store.accessMap]

/-- A grant that is not deleted keeps its id. -/
theorem Step.keeps_id (hs : Step w d v) (tidy : w.Tidy) (linked : w.store.Linked)
    (noRevoke : ¬d.Revokes r p) {e : AclEntry} (held : w.store.entryFor? r p = some e) :
    ∃ e', v.store.entryFor? r p = some e' ∧ e'.id = e.id := by
  by_cases grants : d.Grants r p
  · obtain ⟨done, id, f, asks⟩ := grants
    rw [hs.entryFor?_of_grants tidy linked done asks, held]
    exact ⟨_, if_pos ⟨rfl, rfl⟩, rfl⟩
  · exact ⟨e, (hs.entryFor?_eq tidy linked grants noRevoke).trans held, rfl⟩

/-- The id of a grant that is deleted is not that of a grant any more. -/
theorem Step.id_gone (hs : Step w d v)
    (deletes : d.Revokes r p) {e : AclEntry} (held : w.store.entryFor? r p = some e) :
    v.store.entries.get? e.id = none := by
  subst deletes
  cases hs with
  | done performed =>
    cases Change.effect_of_perform performed with
    | revoke held' =>
      rw [held] at held'
      cases held'
      exact Shelf.get?_erase_self _ _
    | remask asks => cases asks
    | grant asks => cases asks

theorem Step.stays_gone (hs : Step w d v) (tidy : w.Tidy) {k : ObjectId} (drawn : k ∈ w.drawn)
    (gone : w.store.entries.get? k = none) : v.store.entries.get? k = none := by
  cases hs with
  | refused => exact gone
  | done performed fresh =>
    exact (Change.effect_of_perform performed).entries_none tidy gone fun new => fresh k new drawn

end OneStep

/-! ## 5. Whole histories -/

section Histories

variable {w v : Stage} {log : List Deed} {r p : ObjectId}

/-- The map of a store follows its history. -/
theorem Run.accessMap (h : Run w log v) (tidy : w.Tidy) (linked : w.store.Linked) :
    v.store.accessMap = log.foldl Deed.apply w.store.accessMap := by
  induction h with
  | stay => rfl
  | more first last ih =>
    rw [List.foldl_append, ← ih]
    exact last.accessMap (first.tidy tidy) (first.linked tidy linked)

section Folds

variable {does undoes : Deed → Prop}

theorem stands_cons {d : Deed} :
    Stands does undoes (d :: log) ↔
      (does d ∧ ∀ d' ∈ log, ¬undoes d') ∨ Stands does undoes log := by
  constructor
  · rintro ⟨before, d', after, split, did, kept⟩
    rcases List.cons_eq_append_iff.1 split with ⟨rfl, here⟩ | ⟨before', rfl, rfl⟩
    · cases here
      exact Or.inl ⟨did, kept⟩
    · exact Or.inr ⟨before', d', after, rfl, did, kept⟩
  · rintro (⟨did, kept⟩ | ⟨before, d', after, rfl, did, kept⟩)
    · exact ⟨[], d, log, rfl, did, kept⟩
    · exact ⟨d :: before, d', after, rfl, did, kept⟩

/-- What some deeds bring about and some end holds after a history if it was brought about in it,
    or held before, and was not ended later. -/
theorem foldl_apply_iff {P : AccessMap → Prop} (brings : ∀ a d, does d → P (d.apply a))
    (ends : ∀ a d, undoes d → ¬P (d.apply a))
    (keeps : ∀ a d, ¬does d → ¬undoes d → (P (d.apply a) ↔ P a)) (a : AccessMap) :
    P (log.foldl Deed.apply a) ↔
      Stands does undoes log ∨ (P a ∧ ∀ d ∈ log, ¬undoes d) := by
  induction log generalizing a with
  | nil =>
    have nothing : ¬Stands does undoes [] := by
      rintro ⟨before, d, after, split, _⟩
      simp at split
    simp [nothing]
  | cons d log ih =>
    rw [List.foldl_cons, ih, stands_cons, List.forall_mem_cons]
    -- the first deed brings it about, or ends it, or has nothing to do with it
    by_cases did : does d
    · have held := brings a d did
      have still : ¬undoes d := fun ended => ends a d ended held
      simp only [held, did, still, true_and, not_false_eq_true]
      constructor
      · rintro (later | kept)
        · exact Or.inl (Or.inr later)
        · exact Or.inl (Or.inl kept)
      · rintro ((kept | later) | ⟨_, kept⟩)
        · exact Or.inr kept
        · exact Or.inl later
        · exact Or.inr kept
    · by_cases ended : undoes d
      · simp [ends a d ended, did, ended]
      · simp [keeps a d did ended, did, ended]

end Folds

/-- A pair has something if it was granted something in the history, or had something
    before, and it was not taken back later. -/
theorem isSome_foldl (a : AccessMap) :
    (log.foldl Deed.apply a r p).isSome = true ↔
      Granted log r p ∨ ((a r p).isSome = true ∧ ∀ d ∈ log, ¬d.Revokes r p) := by
  refine foldl_apply_iff (P := fun a => (a r p).isSome = true)
    (fun a _ grants => Deed.isSome_apply a grants) (fun a d revokes => ?_)
    (fun a _ noGrant noRevoke => by rw [Deed.apply_eq a noGrant noRevoke]) a
  rw [Deed.apply_eq_none a revokes]
  exact nofun

/-- A pair has a permission if the history gave it, or the pair had it before, and it was not
    taken later. -/
theorem gives_foldl (a : AccessMap) {q : Permission} :
    (log.foldl Deed.apply a).Gives r p q ↔
      Stands (·.Gives r p q) (·.Takes r p q) log ∨
        (a.Gives r p q ∧ ∀ d ∈ log, ¬d.Takes r p q) := by
  refine foldl_apply_iff (P := fun a => a.Gives r p q) ?brings ?ends ?keeps a
  case brings =>
    rintro a _ ⟨id, mask, holds, rfl | rfl⟩
    · exact ⟨mask, if_pos ⟨rfl, rfl⟩, holds⟩
    · exact (AccessMap.gives_update r p q).2 (Or.inr ⟨⟨rfl, rfl⟩, holds⟩)
  case ends =>
    rintro a _ (⟨id, mask, lacks, rfl⟩ | rfl) ⟨m, same, holds⟩
    · cases (if_pos ⟨rfl, rfl⟩).symm.trans same
      rw [lacks] at holds
      cases holds
    · cases (if_pos ⟨rfl, rfl⟩).symm.trans same
  case keeps =>
    intro a d noGive noTake
    by_cases grants : d.Grants r p
    · obtain ⟨c, done⟩ := d
      obtain ⟨rfl, id, _, asks⟩ := grants
      cases asks with
      | set _ _ _ mask =>
        cases holds : mask.contains q with
        | true => exact absurd ⟨id, mask, holds, Or.inl rfl⟩ noGive
        | false => exact absurd (Or.inl ⟨id, mask, holds, rfl⟩) noTake
      | add _ _ _ mask =>
        -- the pair gets other permissions besides its own
        refine (AccessMap.gives_update r p q).trans (or_iff_left ?_)
        rintro ⟨_, holds⟩
        exact noGive ⟨id, mask, holds, Or.inr rfl⟩
    · have noRevoke : ¬d.Revokes r p := fun deletes => noTake (Or.inr deletes)
      rw [AccessMap.Gives, AccessMap.Gives, Deed.apply_eq a grants noRevoke]

/-- After a history a pair has the permissions that were given to it and not taken later. -/
theorem Run.gives_iff_stands (h : Run .start log v) {q : Permission} :
    v.store.accessMap.Gives r p q ↔ Stands (·.Gives r p q) (·.Takes r p q) log := by
  rw [h.accessMap .start .empty, gives_foldl]
  refine or_iff_left ?_
  rintro ⟨⟨m, absent, _⟩, _⟩
  cases absent

/-- The ids of grants that are not deleted do not change. -/
theorem Run.keeps_id (h : Run w log v) (tidy : w.Tidy) (linked : w.store.Linked) {e : AclEntry}
    (held : w.store.entryFor? r p = some e) (kept : ∀ d ∈ log, ¬d.Revokes r p) :
    ∃ e', v.store.entryFor? r p = some e' ∧ e'.id = e.id := by
  induction h with
  | stay => exact ⟨e, held, rfl⟩
  | more first last ih =>
    simp only [List.mem_append, List.mem_singleton] at kept
    obtain ⟨e', held', same⟩ := ih fun d hd => kept d (Or.inl hd)
    obtain ⟨e'', held'', same'⟩ :=
      last.keeps_id (first.tidy tidy) (first.linked tidy linked) (kept _ (Or.inr rfl)) held'
    exact ⟨e'', held'', same'.trans same⟩

/-- The id of a grant that was deleted is never that of a grant again. -/
theorem Run.id_gone (h : Run w log v) (tidy : w.Tidy) (linked : w.store.Linked) {e : AclEntry}
    (held : w.store.entryFor? r p = some e) (deleted : ∃ d ∈ log, d.Revokes r p) :
    e.id ∈ v.drawn ∧ v.store.entries.get? e.id = none := by
  induction h with
  | stay =>
    obtain ⟨d, hd, _⟩ := deleted
    cases hd
  | @more log d v v' first last ih =>
    by_cases before : ∃ d ∈ log, d.Revokes r p
    · obtain ⟨drawn, gone⟩ := ih before
      exact ⟨last.drawn_mono drawn, last.stays_gone (first.tidy tidy) drawn gone⟩
    · -- this step is the first that deletes the grant, which still has its id
      have kept : ∀ d ∈ log, ¬d.Revokes r p := fun d hd hr => before ⟨d, hd, hr⟩
      obtain ⟨e', held', same⟩ := first.keeps_id tidy linked held kept
      have revokes : d.Revokes r p := by
        obtain ⟨d', hd', hr⟩ := deleted
        rcases List.mem_append.1 hd' with hd' | hd'
        · exact absurd hr (kept d' hd')
        · rw [List.mem_singleton] at hd'
          exact hd' ▸ hr
      rw [← same]
      have stored := (first.tidy tidy).get?_of_entryFor? held'
      have drawn := (first.tidy tidy).drawnEntries _ (Shelf.mem_keys_of_get? stored)
      exact ⟨last.drawn_mono drawn, last.id_gone revokes held'⟩

theorem Run.entryFor?_eq (h : Run w log v) (tidy : w.Tidy) (linked : w.store.Linked)
    (untouched : ∀ d ∈ log, ¬d.Grants r p ∧ ¬d.Revokes r p) :
    v.store.entryFor? r p = w.store.entryFor? r p := by
  induction h with
  | stay => rfl
  | more first last ih =>
    simp only [List.mem_append, List.mem_singleton] at untouched
    obtain ⟨noGrant, noRevoke⟩ := untouched _ (Or.inr rfl)
    rw [last.entryFor?_eq (first.tidy tidy) (first.linked tidy linked) noGrant noRevoke]
    exact ih fun d hd => untouched d (Or.inl hd)

end Histories

/-! ## 6. The refinement -/

/-- After every history from the empty store, a pair has a grant exactly if something was
    granted to it and not taken back later, with the mask that the map of the history
    gives.  In this mask is what was given to the pair and not taken later, and an addition
    gives what was there before and what is added, no less and no more.  From there on, what
    is not about the pair leaves its grant alone; the grant keeps its id as long as it is not
    deleted; and the id of a grant that was deleted is never found again. -/
theorem access_refined {log : List Deed} {w : Stage} (h : Run .start log w) (r p : ObjectId) :
    ((w.store.entryFor? r p).isSome = true ↔ Granted log r p) ∧
    (w.store.entryFor? r p).map AclEntry.mask = AccessMap.following log r p ∧
    (∀ q, w.store.accessMap.Gives r p q ↔ Stands (·.Gives r p q) (·.Takes r p q) log) ∧
    (∀ id mask v, Step w ⟨.addAccess id r p mask, true⟩ v → ∀ q,
      v.store.accessMap.Gives r p q ↔ w.store.accessMap.Gives r p q ∨ mask.contains q = true) ∧
    ∀ log' v, Run w log' v →
      ((∀ d ∈ log', ¬d.Grants r p ∧ ¬d.Revokes r p) →
        v.store.entryFor? r p = w.store.entryFor? r p) ∧
      ∀ e, w.store.entryFor? r p = some e →
        ((∀ d ∈ log', ¬d.Revokes r p) →
          ∃ e', v.store.entryFor? r p = some e' ∧ e'.id = e.id) ∧
        ((∃ d ∈ log', d.Revokes r p) → v.store.entries.get? e.id = none) := by
  have tidy := h.tidy .start
  have linked := h.linked .start .empty
  have followed : w.store.accessMap = AccessMap.following log := h.accessMap .start .empty
  refine ⟨?granted, congrFun (congrFun followed r) p, fun q => h.gives_iff_stands, ?added, ?onward⟩
  case granted =>
    have same : (w.store.entryFor? r p).isSome = (AccessMap.following log r p).isSome := by
      rw [← followed]
      exact Option.isSome_map.symm
    rw [same, AccessMap.following, isSome_foldl]
    simp [AccessMap.empty]
  case added =>
    intro id mask v hs q
    rw [hs.accessMap tidy linked]
    exact (AccessMap.gives_update r p q).trans (or_congr_right (and_iff_right ⟨rfl, rfl⟩))
  case onward =>
    intro log' v later
    refine ⟨later.entryFor?_eq tidy linked, ?_⟩
    intro e held
    refine ⟨later.keeps_id tidy linked held, ?_⟩
    intro deleted
    exact (later.id_gone tidy linked held deleted).2

/-- The first grant of the sample is deleted.  The second is another one, and was extended. -/
theorem access_refined_sample :
    ∃ log w log' v, Run .start log w ∧ Run w log' v ∧
      AccessMap.following log ⟨"realm"⟩ ⟨"devs"⟩ = some (.single .read) ∧
      Granted (log ++ log') ⟨"realm"⟩ ⟨"devs"⟩ ∧
      Stands (·.Gives ⟨"realm"⟩ ⟨"devs"⟩ .execute) (·.Takes ⟨"realm"⟩ ⟨"devs"⟩ .execute)
        (log ++ log') ∧
      v.store.entries.get? ⟨"first"⟩ = none := by
  let first := Stage.start.reach (Change.sample.take 8)
  let second := first.2.reach (Change.sample.drop 8)
  have run : Run .start first.1 first.2 := Stage.run_reach _ _
  have later : Run first.2 second.1 second.2 := Stage.run_reach _ _
  obtain ⟨_, mask, _, _, onward⟩ := access_refined run ⟨"realm"⟩ ⟨"devs"⟩
  obtain ⟨granted, _, gives, _⟩ := access_refined (run.trans later) ⟨"realm"⟩ ⟨"devs"⟩
  refine ⟨first.1, first.2, second.1, second.2, run, later, ?_, granted.1 (by decide),
    (gives .execute).1 ⟨(Mask.single .write).union (.single .execute), by decide, rfl⟩, ?_⟩
  · rw [← mask]
    decide
  · exact ((onward _ _ later).2 ⟨⟨"first"⟩, ⟨"realm"⟩, ⟨"devs"⟩, .single .read⟩ (by decide)).2
      ⟨⟨.deleteAccess ⟨"realm"⟩ ⟨"devs"⟩, true⟩, by decide, rfl⟩

end AccessControl
