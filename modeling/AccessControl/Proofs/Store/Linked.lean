/-
  AccessControl/Proofs/Store/Linked.lean
  ======================================
  **Grants and the lists that mention them agree.**

  A grant is kept in three places: on its own, in the list of its resource, and in the
  list of its party.  Each list holds exactly the grants that name its owner
  (`Listed`), and there is at most one grant for a resource and a party.  Both sides of
  a grant are lists of the same kind, so what a change does to them is proved once, for
  any shelf of owners, and used for resources and for parties.

  ## Main definitions

  * `Listed`, `Store.Linked`: the lists and the grants agree.

  ## Main statements

  * `Linked.entryFor?_eq_some`: what is found for a pair;
  * `Reached.linked`: the grants of every store that can be reached are linked;
  * `grants_consistent`: what this means, in full.
-/
import AccessControl.Proofs.Store.Keys

namespace AccessControl

/-! ## 1. One side of the grants -/

section Listed

variable {ν : Type} {entries : Shelf ObjectId AclEntry} {side : AclEntry → ObjectId}
  {owners : Shelf ObjectId ν} {ids : ν → List ObjectId}

/-- The lists of the owners are those of the grants that name the owner on one side, and
    every grant names an owner there. -/
structure Listed (entries : Shelf ObjectId AclEntry) (side : AclEntry → ObjectId)
    (list : ObjectId → Option (List ObjectId)) : Prop where
  nodup : ∀ i l, list i = some l → l.Nodup
  mem : ∀ i l, list i = some l → ∀ k, k ∈ l ↔ ∃ e, entries.get? k = some e ∧ side e = i
  owned : ∀ k e, entries.get? k = some e → ∃ l, list (side e) = some l

namespace Listed

/-- A grant is listed exactly once by the owner that it names. -/
theorem count_eq_one (h : Listed entries side (owners.view ids)) {k : ObjectId} {e : AclEntry}
    (he : entries.get? k = some e) : ∃ v, owners.get? (side e) = some v ∧ (ids v).count k = 1 := by
  obtain ⟨l, hl⟩ := h.owned k e he
  obtain ⟨v, hv, rfl⟩ := Option.map_eq_some_iff.1 hl
  have listed : k ∈ ids v := (h.mem _ _ hl k).2 ⟨e, he, rfl⟩
  exact ⟨v, hv, by rw [(h.nodup _ _ hl).count, if_pos listed]⟩

theorem resolves (h : Listed entries side (owners.view ids)) {i : ObjectId} {v : ν}
    (hv : owners.get? i = some v) : ∀ k ∈ ids v, ∃ e, entries.get? k = some e ∧ side e = i := by
  intro k hk
  exact (h.mem i (ids v) (Shelf.view_of_get? hv) k).1 hk

theorem replace (h : Listed entries side (owners.view ids)) {k : ObjectId} {v v' : ν}
    (hk : owners.get? k = some v) (same : ids v' = ids v) :
    Listed entries side ((owners.put k v').view ids) := by
  rw [Shelf.view_put_same hk same]
  exact h

theorem newcomer (h : Listed entries side (owners.view ids)) {k : ObjectId} {v : ν}
    (hk : owners.get? k = none) (hv : ids v = []) :
    Listed entries side ((owners.put k v).view ids) where
  nodup i l hl := by
    rw [Shelf.view_put, hv] at hl
    by_cases hi : i = k
    · rw [if_pos hi] at hl
      cases hl
      exact List.nodup_nil
    · rw [if_neg hi] at hl
      exact h.nodup i l hl
  mem i l hl k' := by
    rw [Shelf.view_put, hv] at hl
    by_cases hi : i = k
    · rw [if_pos hi] at hl
      cases hl
      -- no grant can name an owner that is not there yet
      have none_named : ¬∃ e, entries.get? k' = some e ∧ side e = i := by
        rintro ⟨e, he, rfl⟩
        obtain ⟨l, hl⟩ := h.owned k' e he
        simp [Shelf.view, hi, hk] at hl
      constructor
      · intro hn
        cases hn
      · intro hn
        exact absurd hn none_named
    · rw [if_neg hi] at hl
      exact h.mem i l hl k'
  owned k' e he := by
    obtain ⟨l, hl⟩ := h.owned k' e he
    by_cases hi : side e = k
    · exact ⟨[], by rw [Shelf.view_put, if_pos hi, hv]⟩
    · exact ⟨l, by rw [Shelf.view_put, if_neg hi, hl]⟩

theorem remask {list : ObjectId → Option (List ObjectId)} (h : Listed entries side list)
    {k : ObjectId} {e e' : AclEntry} (he : entries.get? k = some e) (same : side e' = side e) :
    Listed (entries.put k e') side list where
  nodup := h.nodup
  mem i l hl k' := by
    rw [h.mem i l hl, Shelf.get?_put]
    by_cases hk : k' = k
    · subst hk
      simp [he, same]
    · rw [if_neg hk]
  owned k' e₁ he₁ := by
    rw [Shelf.get?_put] at he₁
    by_cases hk : k' = k
    · rw [if_pos hk] at he₁
      cases he₁
      rw [same]
      exact h.owned k e he
    · rw [if_neg hk] at he₁
      exact h.owned k' e₁ he₁

theorem grant (h : Listed entries side (owners.view ids)) {k i : ObjectId} {e : AclEntry}
    {v v' : ν} (fresh : entries.get? k = none) (he : side e = i) (hv : owners.get? i = some v)
    (hv' : ids v' = ObjectId.append (ids v) k) :
    Listed (entries.put k e) side ((owners.put i v').view ids) where
  nodup j l hl := by
    rw [Shelf.view_put] at hl
    by_cases hj : j = i
    · rw [if_pos hj, hv'] at hl
      cases hl
      exact ObjectId.nodup_append (h.nodup i (ids v) (Shelf.view_of_get? hv)) k
    · rw [if_neg hj] at hl
      exact h.nodup j l hl
  mem j l hl k' := by
    rw [Shelf.view_put] at hl
    rw [Shelf.get?_put]
    by_cases hj : j = i
    · rw [if_pos hj, hv'] at hl
      cases hl
      rw [ObjectId.mem_append, h.mem i (ids v) (Shelf.view_of_get? hv)]
      by_cases hk : k' = k
      · simp [hk, he, hj]
      · simp [hk, hj]
    · rw [if_neg hj] at hl
      rw [h.mem j l hl]
      by_cases hk : k' = k
      · simp [hk, fresh, he, Ne.symm hj]
      · rw [if_neg hk]
  owned k' e₁ he₁ := by
    rw [Shelf.get?_put] at he₁
    by_cases hk : k' = k
    · rw [if_pos hk] at he₁
      cases he₁
      exact ⟨ids v', by rw [Shelf.view_put, if_pos he]⟩
    · rw [if_neg hk] at he₁
      obtain ⟨l, hl⟩ := h.owned k' e₁ he₁
      by_cases hi : side e₁ = i
      · exact ⟨ids v', by rw [Shelf.view_put, if_pos hi]⟩
      · exact ⟨l, by rw [Shelf.view_put, if_neg hi, hl]⟩

theorem revoke (h : Listed entries side (owners.view ids)) {k i : ObjectId} {e : AclEntry}
    {v v' : ν} (held : entries.get? k = some e) (he : side e = i)
    (hv : owners.get? i = some v) (hv' : ids v' = ObjectId.remove (ids v) k) :
    Listed (entries.erase k) side ((owners.put i v').view ids) where
  nodup j l hl := by
    rw [Shelf.view_put] at hl
    by_cases hj : j = i
    · rw [if_pos hj, hv'] at hl
      cases hl
      exact (h.nodup i (ids v) (Shelf.view_of_get? hv)).sublist List.filter_sublist
    · rw [if_neg hj] at hl
      exact h.nodup j l hl
  mem j l hl k' := by
    rw [Shelf.view_put] at hl
    rw [Shelf.get?_erase]
    by_cases hj : j = i
    · rw [if_pos hj, hv'] at hl
      cases hl
      rw [ObjectId.mem_remove, h.mem i (ids v) (Shelf.view_of_get? hv)]
      by_cases hk : k' = k
      · simp [hk]
      · simp [hk, hj]
    · rw [if_neg hj] at hl
      rw [h.mem j l hl]
      by_cases hk : k' = k
      · simp [hk, held, he, Ne.symm hj]
      · rw [if_neg hk]
  owned k' e₁ he₁ := by
    rw [Shelf.get?_erase] at he₁
    by_cases hk : k' = k
    · rw [if_pos hk] at he₁
      cases he₁
    · rw [if_neg hk] at he₁
      obtain ⟨l, hl⟩ := h.owned k' e₁ he₁
      by_cases hi : side e₁ = i
      · exact ⟨ids v', by rw [Shelf.view_put, if_pos hi]⟩
      · exact ⟨l, by rw [Shelf.view_put, if_neg hi, hl]⟩

end Listed

end Listed

/-! ## 2. Both sides -/

/-- The grants and the lists on both sides agree, and no pair has two grants. -/
structure Store.Linked (s : Store) : Prop where
  keyed : s.entries.Keyed AclEntry.id
  onResources : Listed s.entries AclEntry.resourceId (s.resources.view Resource.entryIds)
  ofParties : Listed s.entries AclEntry.partyId (s.parties.view fun p => p.info.entryIds)
  single : ∀ k e k' e', s.entries.get? k = some e → s.entries.get? k' = some e' →
    e.resourceId = e'.resourceId → e.partyId = e'.partyId → k = k'

namespace Store.Linked

variable {s : Store}

theorem empty : Linked .empty where
  keyed := Shelf.Keyed.empty _
  onResources := ⟨fun _ _ h => (nomatch h), fun _ _ h => (nomatch h), fun _ _ h => (nomatch h)⟩
  ofParties := ⟨fun _ _ h => (nomatch h), fun _ _ h => (nomatch h), fun _ _ h => (nomatch h)⟩
  single _ _ _ _ h := nomatch h

theorem unique (h : s.Linked) (resourceId partyId : ObjectId) :
    Unique s.entries.values fun e => e.resourceId == resourceId && e.partyId == partyId := by
  intro a ha b hb hpa hpb
  simp only [Bool.and_eq_true, beq_iff_eq] at hpa hpb
  obtain ⟨k, hk⟩ := Shelf.mem_values.1 ha
  obtain ⟨l, hl⟩ := Shelf.mem_values.1 hb
  have hkl : k = l :=
    h.single k a l b hk hl (hpa.1.trans hpb.1.symm) (hpa.2.trans hpb.2.symm)
  subst hkl
  rw [hk] at hl
  exact Option.some.inj hl

/-- What is found for a pair is the grant that names both. -/
theorem entryFor?_eq_some (h : s.Linked) {resourceId partyId : ObjectId} {e : AclEntry} :
    s.entryFor? resourceId partyId = some e ↔
      s.entries.get? e.id = some e ∧ e.resourceId = resourceId ∧ e.partyId = partyId := by
  rw [entryFor?, find?_eq_some_of_unique (h.unique resourceId partyId), Shelf.mem_values]
  simp only [Bool.and_eq_true, beq_iff_eq]
  constructor
  · rintro ⟨⟨k, hk⟩, named⟩
    rw [h.keyed k e hk]
    exact ⟨hk, named⟩
  · rintro ⟨he, named⟩
    exact ⟨⟨e.id, he⟩, named⟩

theorem entryFor?_eq_none (h : s.Linked) {resourceId partyId : ObjectId} :
    s.entryFor? resourceId partyId = none ↔
      ∀ k e, s.entries.get? k = some e → ¬(e.resourceId = resourceId ∧ e.partyId = partyId) := by
  rw [Option.eq_none_iff_forall_ne_some]
  constructor
  · intro absent k e hk named
    refine absent e (h.entryFor?_eq_some.2 ⟨?_, named⟩)
    rw [h.keyed k e hk]
    exact hk
  · intro absent e found
    obtain ⟨he, named⟩ := h.entryFor?_eq_some.1 found
    exact absent e.id e he named

end Store.Linked

/-! ## 3. Changes keep both sides linked -/

section Changes

variable {s : Store} {resources : Shelf ObjectId Resource} {parties : Shelf ObjectId Party}
  {logins : Shelf UserId ObjectId}

/-- Where a new grant or one with another mask comes in, no pair gets a second grant. -/
theorem single_put {entries : Shelf ObjectId AclEntry} {e : AclEntry}
    (h : ∀ k e k' e', entries.get? k = some e → entries.get? k' = some e' →
      e.resourceId = e'.resourceId → e.partyId = e'.partyId → k = k')
    (alone : ∀ k e', entries.get? k = some e' → e'.resourceId = e.resourceId →
      e'.partyId = e.partyId → k = e.id) :
    ∀ k e₁ k' e₂, (entries.put e.id e).get? k = some e₁ → (entries.put e.id e).get? k' = some e₂ →
      e₁.resourceId = e₂.resourceId → e₁.partyId = e₂.partyId → k = k' := by
  intro k e₁ k' e₂ h₁ h₂ sameResource sameParty
  rw [Shelf.get?_put] at h₁ h₂
  -- one of the two may be the grant that comes in, and then the other is it too
  by_cases hk : k = e.id
  · by_cases hk' : k' = e.id
    · rw [hk, hk']
    · rw [if_pos hk] at h₁
      rw [if_neg hk'] at h₂
      cases h₁
      rw [hk]
      exact (alone k' e₂ h₂ sameResource.symm sameParty.symm).symm
  · rw [if_neg hk] at h₁
    by_cases hk' : k' = e.id
    · rw [if_pos hk'] at h₂
      cases h₂
      rw [hk']
      exact alone k e₁ h₁ sameResource sameParty
    · rw [if_neg hk'] at h₂
      exact h k e₁ k' e₂ h₁ h₂ sameResource sameParty

/-- A change keeps the grants of a tidy store linked. -/
theorem Change.Effect.linked {c : Change} {t : Store} {ids : List ObjectId} (he : c.Effect s t)
    (h : s.Linked) (tidy : Stage.Tidy ⟨s, ids⟩)
    (fresh : ∀ id, c.newId? s = some id → s.resources.get? id = none ∧
      s.parties.get? id = none ∧ s.entries.get? id = none) : t.Linked := by
  induction he with
  | realm =>
    exact { h with onResources := h.onResources.newcomer (fresh _ rfl).1 rfl }
  | @resource id parentId _ _ _ _ adopted parent _ above =>
    have own : parent.id = parentId := tidy.resources _ _ above
    rw [← own] at above
    have absent := (fresh _ rfl).1
    have other : id ≠ parent.id := by
      intro same
      rw [same, above] at absent
      cases absent
    refine { h with onResources := (h.onResources.replace above ?_).newcomer ?_ ?_ }
    · rfl
    · rw [Shelf.get?_put_of_ne _ _ other]
      exact absent
    · rfl
  | repository _ ih => exact ih fresh
  | user _ home _ =>
    exact { h with
      onResources := h.onResources.replace home rfl
      ofParties := h.ofParties.newcomer (fresh _ rfl).2.1 rfl }
  | group home _ =>
    exact { h with
      onResources := h.onResources.replace home rfl
      ofParties := h.ofParties.newcomer (fresh _ rfl).2.1 rfl }
  | @member userObject groupId u g hu hg _ =>
    refine { h with ofParties := (h.ofParties.replace hu ?_).replace (v := .group g) ?_ ?_ }
    · rfl
    · exact Change.group_stays hu hg _
    · rfl
  | @remask _ _ _ _ f _ _ e _ _ _ held =>
    obtain ⟨stored, _, _⟩ := h.entryFor?_eq_some.1 held
    exact
      { keyed := h.keyed.put rfl
        onResources := h.onResources.remask stored rfl
        ofParties := h.ofParties.remask stored rfl
        single := single_put (e := { e with mask := f e.mask }) h.single fun k e' hk hr hp =>
          h.single k e' e.id e hk stored hr hp }
  | @grant c id resourceId partyId f r p asks hr hp new =>
    have unused : s.entries.get? id = none := (fresh id (asks.newId? new)).2.2
    exact
      { keyed := h.keyed.put rfl
        onResources := h.onResources.grant unused rfl hr rfl
        ofParties := h.ofParties.grant unused rfl hp (by simp [Party.attach])
        single := single_put (e := ⟨id, resourceId, partyId, f Mask.none⟩) h.single
          fun k e' hk hr hp => absurd ⟨hr, hp⟩ (h.entryFor?_eq_none.1 new k e' hk) }
  | @revoke resourceId partyId e held =>
    obtain ⟨stored, named, granted⟩ := h.entryFor?_eq_some.1 held
    obtain ⟨l, hl⟩ := h.onResources.owned _ _ stored
    obtain ⟨r, hr, _⟩ := Option.map_eq_some_iff.1 hl
    obtain ⟨l', hl'⟩ := h.ofParties.owned _ _ stored
    obtain ⟨p, hp, _⟩ := Option.map_eq_some_iff.1 hl'
    rw [named] at hr
    rw [granted] at hp
    simp only [hr, hp]
    exact
      { keyed := h.keyed.erase _
        onResources := h.onResources.revoke stored named hr rfl
        ofParties := h.ofParties.revoke stored granted hp (by simp [Party.detach])
        single := by
          intro k e₁ k' e₂ h₁ h₂
          rw [Shelf.get?_erase] at h₁ h₂
          split at h₁
          · cases h₁
          · split at h₂
            · cases h₂
            · exact h.single k e₁ k' e₂ h₁ h₂ }
  | attempt hu => exact { h with ofParties := h.ofParties.replace hu rfl }

theorem Step.linked {w v : Stage} {d : Deed} (tidy : w.Tidy) (h : w.store.Linked)
    (hs : Step w d v) : v.store.Linked := by
  cases hs with
  | refused _ => exact h
  | done performed fresh =>
    exact (Change.effect_of_perform performed).linked h tidy fun id hid =>
      tidy.unused (fresh id hid)

theorem Run.linked {w v : Stage} {log : List Deed} (h : Run w log v) (tidy : w.Tidy)
    (hw : w.store.Linked) : v.store.Linked := by
  have kept : v.Tidy ∧ v.store.Linked :=
    h.keeps (P := fun x => x.Tidy ∧ x.store.Linked)
      (fun hx hs => ⟨hs.tidy hx.1, hs.linked hx.1 hx.2⟩) ⟨tidy, hw⟩
  exact kept.2

/-- The grants of every store that can be reached are linked. -/
theorem Reached.linked (h : Reached s) : s.Linked := by
  obtain ⟨log, drawn, run⟩ := h
  exact run.linked .start .empty

end Changes

/-! ## 4. What it means for grants to be linked -/

/-- In every store that can be reached, a grant stands under its own id, is about a resource
    and a party that are there, and is listed exactly once by each of them; what they list
    are grants that name them; and a resource and a party have one grant at most, so that
    searching for it in any order finds the same one. -/
theorem grants_consistent {s : Store} (h : Reached s) :
    (∀ k e, s.entries.get? k = some e →
      e.id = k ∧
      (∃ r, s.resources.get? e.resourceId = some r ∧ r.entryIds.count k = 1) ∧
      (∃ p, s.parties.get? e.partyId = some p ∧ p.info.entryIds.count k = 1)) ∧
    (∀ i r, s.resources.get? i = some r → ∀ k ∈ r.entryIds,
      ∃ e, s.entries.get? k = some e ∧ e.resourceId = i) ∧
    (∀ i p, s.parties.get? i = some p → ∀ k ∈ p.info.entryIds,
      ∃ e, s.entries.get? k = some e ∧ e.partyId = i) ∧
    (∀ k e k' e', s.entries.get? k = some e → s.entries.get? k' = some e' →
      e.resourceId = e'.resourceId → e.partyId = e'.partyId → k = k') ∧
    ∀ resourceId partyId (order : List AclEntry), order.Perm s.entries.values →
      (order.find? fun e => e.resourceId == resourceId && e.partyId == partyId) =
        s.entryFor? resourceId partyId := by
  have linked := h.linked
  refine ⟨?_, ?_, ?_, linked.single, ?_⟩
  · intro k e he
    exact ⟨linked.keyed k e he, linked.onResources.count_eq_one he,
      linked.ofParties.count_eq_one he⟩
  · intro i r hr
    exact linked.onResources.resolves hr
  · intro i p hp
    exact linked.ofParties.resolves hp
  · intro resourceId partyId order perm
    exact (find?_of_perm perm.symm (linked.unique resourceId partyId)).symm

theorem grants_consistent_sample :
    Reached (.after Change.sample) ∧
      (∃ r, (Store.after Change.sample).resources.get? ⟨"realm"⟩ = some r ∧
        r.entryIds.count ⟨"second"⟩ = 1) ∧
      ∃ p, (Store.after Change.sample).parties.get? ⟨"devs"⟩ = some p ∧
        p.info.entryIds.count ⟨"second"⟩ = 1 := by
  have held : (Store.after Change.sample).entries.get? ⟨"second"⟩ =
      some ⟨⟨"second"⟩, ⟨"realm"⟩, ⟨"devs"⟩, .of [.write, .execute]⟩ := by decide
  have reached := reached_after Change.sample
  exact ⟨reached, ((grants_consistent reached).1 _ _ held).2⟩

end AccessControl
