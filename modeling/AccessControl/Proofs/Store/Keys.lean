/-
  AccessControl/Proofs/Store/Keys.lean
  ====================================
  **Objects stand under their own ids, and all ids were drawn.**

  Every resource and every party is stored under the id that it carries.  All keys of a
  store were drawn at some time, so an id that is drawn now is not in use, and was not
  in use by anything that is gone by now.  A resource and a party never share an id.

  ## Main definitions

  * `Stage.Tidy`.

  ## Main statements

  * `Step.tidy`, `Run.tidy`: a history keeps a tidy stage tidy.
-/
import AccessControl.Proofs.Shelf
import AccessControl.Proofs.Store.Change

namespace AccessControl

/-- Objects stand under their own ids, which were all drawn. -/
structure Stage.Tidy (w : Stage) : Prop where
  resources : w.store.resources.Keyed Resource.id
  parties : w.store.parties.Keyed Party.id
  entries : w.store.entries.Keyed AclEntry.id
  drawnResources : ∀ i ∈ w.store.resources.keys, i ∈ w.drawn
  drawnParties : ∀ i ∈ w.store.parties.keys, i ∈ w.drawn
  drawnEntries : ∀ i ∈ w.store.entries.keys, i ∈ w.drawn
  /-- No id is that of a resource and of a party. -/
  apart : ∀ i ∈ w.store.resources.keys, i ∉ w.store.parties.keys

namespace Stage.Tidy

variable {s : Store} {ids : List ObjectId} {resources : Shelf ObjectId Resource}
  {parties : Shelf ObjectId Party} {entries : Shelf ObjectId AclEntry}
  {logins : Shelf UserId ObjectId}

theorem start : Stage.start.Tidy where
  resources := Shelf.Keyed.empty _
  parties := Shelf.Keyed.empty _
  entries := Shelf.Keyed.empty _
  drawnResources _ hi := nomatch hi
  drawnParties _ hi := nomatch hi
  drawnEntries _ hi := nomatch hi
  apart _ hi := nomatch hi

theorem draw (h : Tidy ⟨s, ids⟩) (more : List ObjectId) : Tidy ⟨s, ids ++ more⟩ where
  resources := h.resources
  parties := h.parties
  entries := h.entries
  drawnResources i hi := List.mem_append_left _ (h.drawnResources i hi)
  drawnParties i hi := List.mem_append_left _ (h.drawnParties i hi)
  drawnEntries i hi := List.mem_append_left _ (h.drawnEntries i hi)
  apart := h.apart

theorem putResource (h : Tidy ⟨⟨resources, parties, entries, logins⟩, ids⟩) {i : ObjectId}
    {r : Resource} (own : r.id = i) (drawn : i ∈ ids) (free : i ∉ parties.keys) :
    Tidy ⟨⟨resources.put i r, parties, entries, logins⟩, ids⟩ where
  resources := h.resources.put own
  parties := h.parties
  entries := h.entries
  drawnResources j hj := by
    rcases Shelf.mem_keys_put.1 hj with rfl | hj
    · exact drawn
    · exact h.drawnResources j hj
  drawnParties := h.drawnParties
  drawnEntries := h.drawnEntries
  apart j hj := by
    rcases Shelf.mem_keys_put.1 hj with rfl | hj
    · exact free
    · exact h.apart j hj

theorem putParty (h : Tidy ⟨⟨resources, parties, entries, logins⟩, ids⟩) {i : ObjectId}
    {p : Party} (own : p.id = i) (drawn : i ∈ ids) (free : i ∉ resources.keys) :
    Tidy ⟨⟨resources, parties.put i p, entries, logins⟩, ids⟩ where
  resources := h.resources
  parties := h.parties.put own
  entries := h.entries
  drawnResources := h.drawnResources
  drawnParties j hj := by
    rcases Shelf.mem_keys_put.1 hj with rfl | hj
    · exact drawn
    · exact h.drawnParties j hj
  drawnEntries := h.drawnEntries
  apart j hj hp := by
    rcases Shelf.mem_keys_put.1 hp with rfl | hp
    · exact free hj
    · exact h.apart j hj hp

theorem replaceResource (h : Tidy ⟨⟨resources, parties, entries, logins⟩, ids⟩) {i : ObjectId}
    {r r' : Resource} (hr : resources.get? i = some r) (same : r'.id = r.id) :
    Tidy ⟨⟨resources.put i r', parties, entries, logins⟩, ids⟩ := by
  have hi : i ∈ resources.keys := Shelf.mem_keys_of_get? hr
  exact h.putResource (same.trans (h.resources i r hr)) (h.drawnResources i hi) (h.apart i hi)

theorem replaceParty (h : Tidy ⟨⟨resources, parties, entries, logins⟩, ids⟩) {i : ObjectId}
    {p p' : Party} (hp : parties.get? i = some p) (same : p'.id = p.id) :
    Tidy ⟨⟨resources, parties.put i p', entries, logins⟩, ids⟩ := by
  have hi : i ∈ parties.keys := Shelf.mem_keys_of_get? hp
  exact h.putParty (same.trans (h.parties i p hp)) (h.drawnParties i hi)
    fun hr => h.apart i hr hi

theorem putEntry (h : Tidy ⟨⟨resources, parties, entries, logins⟩, ids⟩) {k : ObjectId}
    {e : AclEntry} (drawn : k ∈ ids) (own : e.id = k) :
    Tidy ⟨⟨resources, parties, entries.put k e, logins⟩, ids⟩ where
  resources := h.resources
  parties := h.parties
  entries := h.entries.put own
  drawnResources := h.drawnResources
  drawnParties := h.drawnParties
  drawnEntries j hj := by
    rcases Shelf.mem_keys_put.1 hj with rfl | hj
    · exact drawn
    · exact h.drawnEntries j hj
  apart := h.apart

theorem eraseEntry (h : Tidy ⟨⟨resources, parties, entries, logins⟩, ids⟩) (k : ObjectId) :
    Tidy ⟨⟨resources, parties, entries.erase k, logins⟩, ids⟩ where
  resources := h.resources
  parties := h.parties
  entries := h.entries.erase k
  drawnResources := h.drawnResources
  drawnParties := h.drawnParties
  drawnEntries j hj := h.drawnEntries j (Shelf.mem_keys_erase.1 hj).1
  apart := h.apart

theorem withLogins (old : Shelf UserId ObjectId) {new : Shelf UserId ObjectId}
    (h : Tidy ⟨⟨resources, parties, entries, old⟩, ids⟩) :
    Tidy ⟨⟨resources, parties, entries, new⟩, ids⟩ :=
  ⟨h.resources, h.parties, h.entries, h.drawnResources, h.drawnParties, h.drawnEntries, h.apart⟩

theorem get?_of_entryFor? (h : Tidy ⟨s, ids⟩) {resourceId partyId : ObjectId} {e : AclEntry}
    (held : s.entryFor? resourceId partyId = some e) : s.entries.get? e.id = some e := by
  obtain ⟨stored, _, _⟩ := Store.entryFor?_eq_some held
  obtain ⟨k, hk⟩ := Shelf.mem_values.1 stored
  rw [h.entries k e hk]
  exact hk

theorem unused (h : Tidy ⟨s, ids⟩) {id : ObjectId} (fresh : id ∉ ids) :
    s.resources.get? id = none ∧ s.parties.get? id = none ∧ s.entries.get? id = none :=
  ⟨Shelf.get?_eq_none.2 fun hi => fresh (h.drawnResources id hi),
    Shelf.get?_eq_none.2 fun hi => fresh (h.drawnParties id hi),
    Shelf.get?_eq_none.2 fun hi => fresh (h.drawnEntries id hi)⟩

end Stage.Tidy

/-! ## Steps keep stages tidy -/

open Stage in
/-- A change keeps a store tidy among ids that include the new one. -/
theorem Change.Effect.tidy {c : Change} {s t : Store} {ids : List ObjectId} (he : c.Effect s t)
    (h : Tidy ⟨s, ids⟩)
    (hid : ∀ id, c.newId? s = some id →
      id ∈ ids ∧ id ∉ s.resources.keys ∧ id ∉ s.parties.keys) : Tidy ⟨t, ids⟩ := by
  induction he with
  | realm =>
    obtain ⟨drawn, _, free⟩ := hid _ rfl
    exact h.putResource rfl drawn free
  | @resource id parentId _ _ _ _ _ parent _ above =>
    obtain ⟨drawn, _, free⟩ := hid _ rfl
    refine Tidy.putResource ?_ rfl drawn free
    -- the parent comes back under its own id, which is the one it was found under
    have own : parent.id = parentId := h.resources _ _ above
    rw [← own] at above
    exact h.replaceResource above rfl
  | repository _ ih => exact ih hid
  | user _ home _ =>
    obtain ⟨drawn, free, _⟩ := hid _ rfl
    refine Tidy.withLogins s.logins (Tidy.replaceResource ?_ home rfl)
    exact h.putParty rfl drawn free
  | group home _ =>
    obtain ⟨drawn, free, _⟩ := hid _ rfl
    refine Tidy.replaceResource ?_ home rfl
    exact h.putParty rfl drawn free
  | @member userObject groupId _ g hu hg _ =>
    refine Tidy.replaceParty (p := .group g) ?_ ?_ rfl
    · exact h.replaceParty hu rfl
    · exact Change.group_stays hu hg _
  | remask _ _ _ held =>
    have stored := h.get?_of_entryFor? held
    exact h.putEntry (h.drawnEntries _ (Shelf.mem_keys_of_get? stored)) rfl
  | @grant c id resourceId partyId _ _ _ asks hr hp new =>
    have drawn : id ∈ ids := (hid id (asks.newId? new)).1
    refine Tidy.putEntry ?_ drawn ?_
    · refine Tidy.replaceResource ?_ hr rfl
      exact h.replaceParty hp (by simp [Party.attach, Party.id])
    · rfl
  | @revoke resourceId partyId e _ =>
    refine Tidy.eraseEntry ?_ e.id
    rcases foundParty : s.parties.get? partyId with _ | p
    · rcases found : s.resources.get? resourceId with _ | r
      · exact h
      · exact h.replaceResource found rfl
    · have hp : Tidy ⟨⟨s.resources, s.parties.put partyId (p.detach e.id), s.entries, s.logins⟩,
          ids⟩ := h.replaceParty foundParty (by simp [Party.detach, Party.id])
      rcases found : s.resources.get? resourceId with _ | r
      · exact hp
      · exact hp.replaceResource found rfl
  | attempt hu => exact h.replaceParty hu rfl

theorem Step.tidy {w v : Stage} {d : Deed} (h : w.Tidy) (hs : Step w d v) : v.Tidy := by
  cases hs with
  | refused _ => exact h
  | @done c t performed fresh =>
    refine (Change.effect_of_perform performed).tidy (h.draw _) ?_
    intro id hid
    obtain ⟨hr, hp, _⟩ := h.unused (fresh id hid)
    exact ⟨by simp [hid], Shelf.get?_eq_none.1 hr, Shelf.get?_eq_none.1 hp⟩

theorem Run.tidy {w v : Stage} {log : List Deed} (h : Run w log v) (hw : w.Tidy) : v.Tidy :=
  h.keeps (fun hv hs => hs.tidy hv) hw

end AccessControl
