/-
  AccessControl/Proofs/Store/Connected.lean
  =========================================
  **Objects refer to objects that are there.**

  Every resource stands under a stored resource of the kind that it needs, or under
  nothing if it is a realm; every group that a user is in is stored, and is a group; and
  the logins lead to exactly the users that have them.  So nobody who follows a reference
  from a stored object ends at nothing.

  ## Main definitions

  * `Store.Connected`: references lead to what is there;
  * `Store.Sound`: all that is known of a store that can be reached.

  ## Main statements

  * `Step.connected`, `Run.connected`: changes keep objects connected;
  * `Run.sound`, `Reached.sound`: every store that can be reached is sound;
  * `Sound.user_eq_ok`: whom a login leads to.
-/
import AccessControl.Proofs.Store.Lasting
import AccessControl.Proofs.Store.Linked

namespace AccessControl

/-! ## 1. Connected stores -/

def Party.login? (p : Party) : Option UserId := p.user?.map User.userId

theorem Party.login?_attach (p : Party) (k : ObjectId) : (p.attach k).login? = p.login? := by
  cases p <;> rfl

theorem Party.login?_detach (p : Party) (k : ObjectId) : (p.detach k).login? = p.login? := by
  cases p <;> rfl

/-- References of stored objects lead to stored objects. -/
structure Store.Connected (s : Store) : Prop where
  placed : ∀ i r, s.resources.get? i = some r → r.Placed s
  joined : ∀ i groups, s.parties.view Party.groupIds i = some groups →
    ∀ k ∈ groups, ∃ g, s.parties.get? k = some (.group g)
  known : ∀ login i,
    s.logins.get? login = some i ↔ s.parties.view Party.login? i = some (some login)

theorem Store.Connected.empty : Connected .empty where
  placed _ _ h := nomatch h
  joined _ _ h := nomatch h
  known _ _ := ⟨fun h => (nomatch h), fun h => (nomatch h)⟩

/-! ## 2. Changes keep objects connected -/

namespace Change.Effect

variable {c : Change} {s t : Store} {ids : List ObjectId}

theorem placed_lasts (he : c.Effect s t) (tidy : Stage.Tidy ⟨s, ids⟩)
    (unused : ∀ id, c.newId? s = some id → s.resources.get? id = none) {r r' : Resource}
    (same : r'.lasting = r.lasting) (placed : r.Placed s) : r'.Placed t := by
  have sameParent : r'.parentId = r.parentId := congrArg Resource.Lasting.parentId same
  have sameType : r'.type = r.type := congrArg Resource.Lasting.type same
  unfold Resource.Placed at placed ⊢
  rw [sameParent, sameType]
  rcases hparent : r.parentId with _ | parentId
  · rw [hparent] at placed
    exact placed
  · rw [hparent] at placed
    obtain ⟨parent, above, fits⟩ := placed
    obtain ⟨parent', above', same'⟩ := he.resource_lasts tidy unused above
    refine ⟨parent', above', ?_⟩
    rw [fits]
    exact congrArg some (congrArg Resource.Lasting.type same').symm

theorem placed (he : c.Effect s t) (tidy : Stage.Tidy ⟨s, ids⟩)
    (unused : ∀ id, c.newId? s = some id → s.resources.get? id = none) (h : s.Connected)
    (i : ObjectId) (r : Resource) (hr : t.resources.get? i = some r) : r.Placed t := by
  rcases he.resources_lasting tidy i with same | ⟨_, r', hr', placed⟩
  · rw [Shelf.view_of_get? hr] at same
    obtain ⟨old, hold, lasting⟩ := Shelf.view_eq_some.1 same.symm
    exact he.placed_lasts tidy unused lasting.symm (h.placed i old hold)
  · rw [hr] at hr'
    cases hr'
    exact he.placed_lasts tidy unused rfl placed

theorem joined (he : c.Effect s t)
    (unused : ∀ id, c.newId? s = some id → s.parties.get? id = none) (h : s.Connected)
    (i : ObjectId) (groups : List ObjectId)
    (hgroups : t.parties.view Party.groupIds i = some groups) :
    ∀ k ∈ groups, ∃ g, t.parties.get? k = some (.group g) := by
  intro k hk
  have before : ∃ g, s.parties.get? k = some (.group g) := by
    rcases he.groups_lasting i with ⟨same, _⟩ | ⟨_, alone⟩ | ⟨groupId, g, old, _, hg, hold, more⟩
    · exact h.joined i groups (same ▸ hgroups) k hk
    · rw [hgroups] at alone
      cases alone
      cases hk
    · rw [hgroups] at more
      cases more
      rcases ObjectId.mem_append.1 hk with hk | rfl
      · exact h.joined i old hold k hk
      · exact ⟨g, hg⟩
  obtain ⟨g, hg⟩ := before
  exact he.group_lasts unused hg

theorem known_of_view {parties parties' : Shelf ObjectId Party} {logins : Shelf UserId ObjectId}
    {login : UserId} {i : ObjectId}
    (same : parties'.view Party.login? = parties.view Party.login?)
    (before : logins.get? login = some i ↔
      parties.view Party.login? i = some (some login)) :
    logins.get? login = some i ↔ parties'.view Party.login? i = some (some login) := by
  rw [same]
  exact before

theorem known (he : c.Effect s t)
    (unused : ∀ id, c.newId? s = some id → s.parties.get? id = none) (h : s.Connected)
    (login : UserId) (i : ObjectId) :
    t.logins.get? login = some i ↔ t.parties.view Party.login? i = some (some login) := by
  have before := h.known login i
  induction he with
  | realm => exact before
  | resource => exact before
  | repository _ ih => exact ih unused
  | @user id _ _ login' _ _ _ _ free =>
    show (s.logins.put login' id).get? login = some i ↔ (s.parties.put id _).view _ i = _
    rw [Shelf.get?_put, Shelf.view_put]
    by_cases new : i = id
    · by_cases own : login = login'
      · rw [if_pos own, if_pos new, new, own]
        exact ⟨fun _ => rfl, fun _ => rfl⟩
      · -- nobody had the id, so no other login leads to it
        rw [if_neg own, if_pos new, before, new, Shelf.view, unused id rfl]
        constructor
        · intro hn
          cases hn
        · intro same
          exact absurd (Option.some.inj (Option.some.inj same)).symm own
    · by_cases own : login = login'
      · -- the login was nobody's before
        rw [if_pos own, if_neg new, ← before, own, free]
        constructor
        · intro same
          exact absurd (Option.some.inj same).symm new
        · intro hn
          cases hn
      · rw [if_neg own, if_neg new]
        exact before
  | @group id =>
    show s.logins.get? login = some i ↔ (s.parties.put id _).view _ i = _
    rw [Shelf.view_put]
    by_cases new : i = id
    · rw [if_pos new, before, new, Shelf.view, unused id rfl]
      constructor
      · intro hn
        cases hn
      · intro hn
        cases hn
    · rw [if_neg new]
      exact before
  | @member userObject groupId u g hu hg _ =>
    have hg' := group_stays hu hg (.user
      { u with groupIds := ObjectId.append u.groupIds groupId })
    refine known_of_view ((Shelf.view_put_same hg' ?_).trans (Shelf.view_put_same hu ?_)) before
    · rfl
    · rfl
  | remask => exact before
  | grant _ _ hp => exact known_of_view (Shelf.view_put_same hp (Party.login?_attach _ _)) before
  | @revoke _ partyId =>
    rcases found : s.parties.get? partyId with _ | p
    · exact before
    · exact known_of_view (Shelf.view_put_same found (Party.login?_detach _ _)) before
  | attempt hu =>
    refine known_of_view (Shelf.view_put_same hu ?_) before
    rfl

/-- A change keeps a tidy store connected. -/
theorem connected (he : c.Effect s t) (tidy : Stage.Tidy ⟨s, ids⟩)
    (fresh : ∀ id, c.newId? s = some id → s.resources.get? id = none ∧
      s.parties.get? id = none ∧ s.entries.get? id = none) (h : s.Connected) : t.Connected where
  placed := he.placed tidy (fun id hid => (fresh id hid).1) h
  joined := he.joined (fun id hid => (fresh id hid).2.1) h
  known := he.known (fun id hid => (fresh id hid).2.1) h

end Change.Effect

theorem Step.connected {w v : Stage} {d : Deed} (tidy : w.Tidy) (h : w.store.Connected)
    (hs : Step w d v) : v.store.Connected := by
  cases hs with
  | refused _ => exact h
  | done performed fresh =>
    exact (Change.effect_of_perform performed).connected tidy (fun id hid =>
      tidy.unused (fresh id hid)) h

theorem Run.connected {w v : Stage} {log : List Deed} (h : Run w log v) (tidy : w.Tidy)
    (hw : w.store.Connected) : v.store.Connected := by
  have kept : v.Tidy ∧ v.store.Connected :=
    h.keeps (P := fun x => x.Tidy ∧ x.store.Connected)
      (fun hx hs => ⟨hs.tidy hx.1, hs.connected hx.1 hx.2⟩) ⟨tidy, hw⟩
  exact kept.2

/-! ## 3. Sound stores -/

/-- All that is known of a store that can be reached: objects stand under their own ids,
    none is a resource and a party, and grants and references are as they should be. -/
structure Store.Sound (s : Store) : Prop where
  resources : s.resources.Keyed Resource.id
  parties : s.parties.Keyed Party.id
  apart : ∀ i ∈ s.resources.keys, i ∉ s.parties.keys
  linked : s.Linked
  connected : s.Connected

theorem Run.sound {v : Stage} {log : List Deed} (h : Run .start log v) : v.store.Sound where
  resources := (h.tidy .start).resources
  parties := (h.tidy .start).parties
  apart := (h.tidy .start).apart
  linked := h.linked .start .empty
  connected := h.connected .start .empty

theorem Reached.sound {s : Store} (h : Reached s) : s.Sound := by
  obtain ⟨log, drawn, run⟩ := h
  exact run.sound

/-- The user under a login is the one that has it. -/
theorem Store.Sound.user_eq_ok {s : Store} (h : s.Sound) {login : UserId} {u : User} :
    s.user login = .ok u ↔ s.parties.get? u.info.id = some (.user u) ∧ u.userId = login := by
  rw [Store.user, found_eq_ok]
  constructor
  · intro found
    obtain ⟨p, hp, isUser⟩ := Option.bind_eq_some_iff.1 found
    obtain ⟨i, hi, hp⟩ := Option.bind_eq_some_iff.1 hp
    cases p with
    | group g => cases isUser
    | user u' =>
      cases isUser
      have own : u.info.id = i := h.parties i (.user u) hp
      obtain ⟨p, hp', named⟩ := Shelf.view_eq_some.1 ((h.connected.known login i).1 hi)
      rw [hp] at hp'
      cases hp'
      exact ⟨own ▸ hp, Option.some.inj named⟩
  · rintro ⟨hp, rfl⟩
    have hi := (h.connected.known u.userId u.info.id).2 (Shelf.view_of_get? hp)
    rw [hi]
    show (s.parties.get? u.info.id).bind Party.user? = some u
    rw [hp]
    rfl

end AccessControl
