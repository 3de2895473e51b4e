/-
  AccessControl/Proofs/Access/Turning.lean
  ========================================
  **What turns a decision.**

  Whether a user may do something with a resource depends on little: on the grants of the user
  and its groups on the resource and on its parent, and on which groups these are.  One step of
  a history opens the resource to the user only by giving one of these holders the permission,
  or by making the user a member of a group that has it.  It closes the resource only by taking
  the permission from one of the holders.  Any other step leaves the decision as it was, to the
  very grant that it names.

  ## Main definitions

  * `User.holders`, `Resource.InReach`: whose grants count, and on what;
  * `Deed.Opens`, `Deed.Closes`: what a deed does to the access of a user to a resource.

  ## Main statements

  * `Step.giving_eq`: a deed that neither gives nor takes leaves the grant that counts;
  * `Step.holders_grow`: who holds grants for a user after a step;
  * `decision_turns`: what one step does to a decision.
-/
import AccessControl.Proofs.Access.Verdict
import AccessControl.Proofs.Store.Membership

namespace AccessControl

/-! ## 1. Who holds grants, and on what -/

/-- Those whose grants count for a user: the user and its groups. -/
def User.holders (u : User) : List ObjectId := u.info.id :: u.groupIds

/-- Grants on the resource itself and on its parent count. -/
def Resource.InReach (r : Resource) (x : ObjectId) : Prop := x = r.id ∨ r.parentId = some x

/-- The deed opens a resource to a user.  It gives the permission to a holder, or makes the user
    a member of a group that has it. -/
def Deed.Opens (d : Deed) (s : Store) (u : User) (r : Resource) (p : Permission) : Prop :=
  ∃ x, r.InReach x ∧ ((∃ c ∈ u.holders, d.Gives x c p) ∨
    ∃ k e, d = ⟨.addUserToGroup u.info.id k, true⟩ ∧ s.entryFor? x k = some e ∧
      e.mask.contains p = true)

/-- The deed closes a resource to a user.  It takes the permission from a holder. -/
def Deed.Closes (d : Deed) (u : User) (r : Resource) (p : Permission) : Prop :=
  ∃ x, r.InReach x ∧ ∃ c ∈ u.holders, d.Takes x c p

/-! ## 2. The grant of a pair after a step -/

section Pairs

variable {w v : Stage} {d : Deed} {x c : ObjectId} {p : Permission}

def Store.giving? (s : Store) (p : Permission) (x c : ObjectId) : Option ObjectId :=
  (s.entryGiving? p x c).map AclEntry.id

theorem isSome_giving? {s : Store} :
    (s.giving? p x c).isSome = true ↔
      ∃ e, s.entryFor? x c = some e ∧ e.mask.contains p = true := by
  unfold Store.giving? Store.entryGiving?
  cases s.entryFor? x c <;> simp [Option.isSome_filter]

theorem Step.giving_of_gives (hs : Step w d v) (tidy : w.Tidy) (linked : w.store.Linked)
    (gives : d.Gives x c p) : (v.store.giving? p x c).isSome = true := by
  unfold Store.giving? Store.entryGiving?
  obtain ⟨id, mask, holds, rfl | rfl⟩ := gives
  · rw [hs.entryFor?_of_grants tidy linked rfl (.set id x c mask), if_pos ⟨rfl, rfl⟩]
    cases w.store.entryFor? x c <;> simp [holds]
  · rw [hs.entryFor?_of_grants tidy linked rfl (.add id x c mask), if_pos ⟨rfl, rfl⟩]
    cases w.store.entryFor? x c <;> simp [holds]

theorem Step.giving_of_takes (hs : Step w d v) (tidy : w.Tidy) (linked : w.store.Linked)
    (takes : d.Takes x c p) : v.store.giving? p x c = none := by
  unfold Store.giving? Store.entryGiving?
  obtain ⟨id, mask, lacks, rfl⟩ | rfl := takes
  · rw [hs.entryFor?_of_grants tidy linked rfl (.set id x c mask), if_pos ⟨rfl, rfl⟩]
    cases w.store.entryFor? x c <;> simp [lacks]
  · rw [hs.entryFor?_of_revokes tidy linked rfl, if_pos ⟨rfl, rfl⟩]
    rfl

/-- A deed that neither gives nor takes a permission leaves the grant that gives it. -/
theorem Step.giving_eq (hs : Step w d v) (tidy : w.Tidy) (linked : w.store.Linked)
    (noGive : ¬d.Gives x c p) (noTake : ¬d.Takes x c p) :
    v.store.giving? p x c = w.store.giving? p x c := by
  unfold Store.giving? Store.entryGiving?
  by_cases grants : d.Grants x c
  · obtain ⟨change, done⟩ := d
    obtain ⟨rfl, id, _, asks⟩ := grants
    cases asks with
    | set _ _ _ mask =>
      cases holds : mask.contains p with
      | true => exact absurd ⟨id, mask, holds, Or.inl rfl⟩ noGive
      | false => exact absurd (Or.inl ⟨id, mask, holds, rfl⟩) noTake
    | add _ _ _ mask =>
      cases holds : mask.contains p with
      | true => exact absurd ⟨id, mask, holds, Or.inr rfl⟩ noGive
      | false =>
        -- what the party gets besides its permissions is something else
        rw [hs.entryFor?_of_grants tidy linked rfl (.add id x c mask), if_pos ⟨rfl, rfl⟩]
        rcases w.store.entryFor? x c with _ | e
        · simp [holds]
        · cases held : e.mask.contains p <;> simp [Option.filter, holds, held]
  · have noRevoke : ¬d.Revokes x c := fun deletes => noTake (Or.inr deletes)
    rw [hs.entryFor?_eq tidy linked grants noRevoke]

end Pairs

/-! ## 3. The user after a step -/

section Around

variable {w v : Stage} {d : Deed}

/-- A user stays, with the groups that it was in and the one that it joins. -/
theorem Step.holders_grow (hs : Step w d v) (tidy : w.Tidy) {u : User}
    (stored : w.store.parties.get? u.info.id = some (.user u)) :
    ∃ u' more, v.store.parties.get? u.info.id = some (.user u') ∧ u'.info.id = u.info.id ∧
      u'.userId = u.userId ∧ u'.holders = u.holders ++ more ∧
      ∀ k ∈ more, d = ⟨.addUserToGroup u.info.id k, true⟩ := by
  obtain ⟨p, hp, same⟩ := hs.party_lasts tidy stored
  cases p with
  | group g => cases congrArg Party.Lasting.account same
  | user u' =>
    have sameId : u'.info.id = u.info.id := congrArg Party.Lasting.id same
    have sameLogin : u'.userId = u.userId :=
      congrArg Prod.fst (Option.some.inj (congrArg Party.Lasting.account same))
    suffices groups : ∃ more, u'.groupIds = u.groupIds ++ more ∧
        ∀ k ∈ more, d = ⟨.addUserToGroup u.info.id k, true⟩ by
      obtain ⟨more, grown, joins⟩ := groups
      refine ⟨u', more, hp, sameId, sameLogin, ?_, joins⟩
      rw [User.holders, User.holders, sameId, grown, List.cons_append]
    have after := Shelf.view_of_get? (f := Party.groupIds) hp
    have before := Shelf.view_of_get? (f := Party.groupIds) stored
    rcases kept_groups tidy hs u.info.id with
      ⟨-, kept⟩ | ⟨-, absent, -⟩ | ⟨ids, k, joined, hids, grown⟩
    · rw [after, before] at kept
      exact ⟨[], (Option.some.inj kept).trans (List.append_nil _).symm, nofun⟩
    · rw [absent] at stored
      cases stored
    · rw [before] at hids
      cases hids
      rw [after] at grown
      have grown : u'.groupIds = ObjectId.append u.groupIds k := Option.some.inj grown
      by_cases member : k ∈ u.groupIds
      · exact ⟨[], by rw [grown, ObjectId.append, if_pos member, List.append_nil], nofun⟩
      · refine ⟨[k], by rw [grown, ObjectId.append, if_neg member], fun k' hk' => ?_⟩
        rw [List.mem_singleton.1 hk']
        exact Deed.joined?_eq_some.1 joined

end Around

/-! ## 4. Decisions before and after -/

section Decisions

variable {s t : Store} {p : Permission} {r r' : Resource}

theorem grantFor?_congr (sameId : r'.id = r.id) (sameParent : r'.parentId = r.parentId)
    {c : ObjectId} (same : ∀ x, r.InReach x → t.giving? p x c = s.giving? p x c) :
    t.grantFor? p r' c = s.grantFor? p r c := by
  have written (a : Store) (q : Resource) : a.grantFor? p q c =
      ((a.giving? p q.id c).map fun k => ⟨c, k, q.id, .direct⟩).or
        (q.parentId.bind fun parentId =>
          (a.giving? p parentId c).map fun k => ⟨c, k, parentId, .parent⟩) := by
    unfold Store.grantFor? Store.giving?
    cases a.entryGiving? p q.id c <;> simp [Function.comp_def]
  rw [written, written, sameId, sameParent, same r.id (Or.inl rfl)]
  rcases above : r.parentId with _ | parentId
  · rfl
  · have same := same parentId (Or.inr above)
    simp only [Option.bind_some, same]

theorem isSome_grantFor?_iff {c : ObjectId} :
    (s.grantFor? p r c).isSome = true ↔ ∃ x, r.InReach x ∧ (s.giving? p x c).isSome = true := by
  rw [isSome_grantFor?]
  unfold Store.giving? Resource.InReach
  simp only [Option.isSome_map]
  constructor
  · rintro (here | ⟨parentId, above, there⟩)
    · exact ⟨r.id, Or.inl rfl, here⟩
    · exact ⟨parentId, Or.inr above, there⟩
  · rintro ⟨x, rfl | above, held⟩
    · exact Or.inl held
    · exact Or.inr ⟨x, above, held⟩

theorem findSome?_congr {α β : Type} {f g : α → Option β} {l : List α}
    (same : ∀ a ∈ l, f a = g a) : l.findSome? f = l.findSome? g := by
  induction l with
  | nil => rfl
  | cons a l ih =>
    rw [List.findSome?_cons, List.findSome?_cons, same a (List.mem_cons_self ..),
      ih fun b hb => same b (List.mem_cons_of_mem _ hb)]

def Store.answer (s : Store) (p : Permission) (r : Resource) (holders : List ObjectId) :
    Decision :=
  match holders.findSome? (s.grantFor? p r) with
  | some g => .granted p g
  | none => .denied p

theorem allow_answer {holders : List ObjectId} :
    (s.answer p r holders).allow = true ↔
      ∃ c ∈ holders, ∃ x, r.InReach x ∧ (s.giving? p x c).isSome = true := by
  have found : (s.answer p r holders).allow = (holders.findSome? (s.grantFor? p r)).isSome := by
    unfold Store.answer
    cases holders.findSome? (s.grantFor? p r) <;> rfl
  rw [found, List.findSome?_isSome_iff]
  simp only [isSome_grantFor?_iff]

theorem decision_eq_answer (h : s.Sound) {login : UserId} {u : User} {i : ObjectId}
    (known : s.user login = .ok u) (other : u.info.id ≠ i)
    (target : s.resources.get? i = some r) (p : Permission) :
    s.lookups.decision login (Mask.single p) i = .ok (s.answer p r u.holders) := by
  have found := (user_eq_ok_iff_userWith? h).1 known
  rw [decision_single, decisionOn_of_user h found, Store.verdict, found]
  simp only [if_neg other, target]
  unfold Store.answer User.holders
  cases (u.info.id :: u.groupIds).findSome? (s.grantFor? p r) <;> rfl

end Decisions

/-! ## 5. What a step does to a decision -/

section Turns

variable {w v : Stage} {d : Deed} {u u' : User} {r r' : Resource} {p : Permission}

theorem Step.opens_of_joined (hs : Step w d v) (tidy : w.Tidy) (linked : w.store.Linked)
    {x c : ObjectId} (joined : d = ⟨.addUserToGroup u.info.id c, true⟩) (hx : r.InReach x)
    (held : (v.store.giving? p x c).isSome = true) : d.Opens w.store u r p := by
  subst joined
  rw [hs.giving_eq tidy linked (by rintro ⟨_, _, _, h | h⟩ <;> cases h)
    (by rintro (⟨_, _, _, h⟩ | h) <;> cases h)] at held
  obtain ⟨e, he, holds⟩ := isSome_giving?.1 held
  exact ⟨x, hx, Or.inr ⟨c, e, rfl, he, holds⟩⟩

theorem Step.opens (hs : Step w d v) (tidy : w.Tidy) (linked : w.store.Linked)
    {more : List ObjectId} (joins : ∀ k ∈ more, d = ⟨.addUserToGroup u.info.id k, true⟩)
    (denied : (w.store.answer p r u.holders).allow = false)
    (allowed : (v.store.answer p r (u.holders ++ more)).allow = true) :
    d.Opens w.store u r p := by
  obtain ⟨c, hc, x, hx, held⟩ := allow_answer.1 allowed
  rcases List.mem_append.1 hc with hc | hc
  · by_cases gives : d.Gives x c p
    · exact ⟨x, hx, Or.inl ⟨c, hc, gives⟩⟩
    · by_cases takes : d.Takes x c p
      · rw [hs.giving_of_takes tidy linked takes] at held
        cases held
      · rw [hs.giving_eq tidy linked gives takes] at held
        rw [allow_answer.2 ⟨c, hc, x, hx, held⟩] at denied
        cases denied
  · exact hs.opens_of_joined tidy linked (joins c hc) hx held

theorem Deed.OnlyAdds.not_closes (adds : d.OnlyAdds) : ¬d.Closes u r p := by
  rintro ⟨x, -, c, -, ⟨id, mask, -, rfl⟩ | rfl⟩
  · exact adds.1 id x c mask rfl
  · exact adds.2 x c rfl

theorem Step.closes (hs : Step w d v) (tidy : w.Tidy) (linked : w.store.Linked)
    {more : List ObjectId} (allowed : (w.store.answer p r u.holders).allow = true)
    (denied : (v.store.answer p r (u.holders ++ more)).allow = false) : d.Closes u r p := by
  obtain ⟨c, hc, x, hx, held⟩ := allow_answer.1 allowed
  have lost : v.store.giving? p x c = none := by
    refine Option.not_isSome_iff_eq_none.1 fun still => ?_
    rw [allow_answer.2 ⟨c, List.mem_append_left _ hc, x, hx, still⟩] at denied
    cases denied
  refine ⟨x, hx, c, hc, ?_⟩
  by_cases takes : d.Takes x c p
  · exact takes
  · by_cases gives : d.Gives x c p
    · have given := hs.giving_of_gives tidy linked gives
      rw [lost] at given
      cases given
    · rw [← hs.giving_eq tidy linked gives takes, lost] at held
      cases held

theorem Step.answer_eq (hs : Step w d v) (tidy : w.Tidy) (linked : w.store.Linked)
    {more : List ObjectId} (joins : ∀ k ∈ more, d = ⟨.addUserToGroup u.info.id k, true⟩)
    (noOpen : ¬d.Opens w.store u r p) (noClose : ¬d.Closes u r p) :
    v.store.answer p r (u.holders ++ more) = w.store.answer p r u.holders := by
  have kept : ∀ c ∈ u.holders, v.store.grantFor? p r c = w.store.grantFor? p r c := by
    intro c hc
    refine grantFor?_congr rfl rfl fun x hx => hs.giving_eq tidy linked ?_ ?_
    · intro gives
      exact noOpen ⟨x, hx, Or.inl ⟨c, hc, gives⟩⟩
    · intro takes
      exact noClose ⟨x, hx, c, hc, takes⟩
  have nothing : more.findSome? (v.store.grantFor? p r) = none := by
    refine List.findSome?_eq_none_iff.2 fun k hk => Option.not_isSome_iff_eq_none.1 fun holds => ?_
    obtain ⟨x, hx, held⟩ := isSome_grantFor?_iff.1 holds
    exact noOpen (hs.opens_of_joined tidy linked (joins k hk) hx held)
  unfold Store.answer
  rw [List.findSome?_append, nothing, Option.or_none, findSome?_congr kept]

end Turns

/-- One step of a history turns the decision about a permission of a user on a resource, which
    is not its own account, from no to yes only if it opens the resource to the user, and from
    yes to no only if it closes it.  Every other step leaves the decision as it is.  What sets
    and deletes no grant turns no yes into a no. -/
theorem decision_turns {w v : Stage} {log : List Deed} {d : Deed} (run : Run .start log w)
    (step : Step w d v) {login : UserId} {u : User} (known : w.store.user login = .ok u)
    {i : ObjectId} {r : Resource} (target : w.store.resources.get? i = some r)
    (other : u.info.id ≠ i) (p : Permission) :
    ∃ before after,
      w.store.lookups.decision login (Mask.single p) i = .ok before ∧
      v.store.lookups.decision login (Mask.single p) i = .ok after ∧
      (before.allow = false → after.allow = true → d.Opens w.store u r p) ∧
      (before.allow = true → after.allow = false → d.Closes u r p) ∧
      (¬d.Opens w.store u r p → ¬d.Closes u r p → after = before) ∧
      (d.OnlyAdds → before.allow = true → after.allow = true) := by
  have tidy := run.tidy .start
  have linked := run.linked .start .empty
  have sound' := (Run.more run step).sound
  obtain ⟨stored, rfl⟩ := run.sound.user_eq_ok.1 known
  obtain ⟨u', more, stored', sameId, sameLogin, grown, joins⟩ := step.holders_grow tidy stored
  obtain ⟨r', target', same⟩ := step.resource_lasts tidy target
  have known' : v.store.user u.userId = .ok u' :=
    sound'.user_eq_ok.2 ⟨sameId ▸ stored', sameLogin⟩
  have answer : v.store.answer p r' u'.holders = v.store.answer p r (u.holders ++ more) := by
    unfold Store.answer
    rw [grown, findSome?_congr fun c _ => grantFor?_congr (congrArg Resource.Lasting.id same)
      (congrArg Resource.Lasting.parentId same) fun _ _ => rfl]
  refine ⟨_, _, decision_eq_answer run.sound known other target p,
    (decision_eq_answer sound' known' (sameId.symm ▸ other) target' p).trans (by rw [answer]),
    step.opens tidy linked joins, step.closes tidy linked,
    step.answer_eq tidy linked joins, ?_⟩
  intro adds allowed
  rw [← Bool.not_eq_false]
  intro denied
  exact adds.not_closes (step.closes tidy linked allowed denied)

/-- The sample's user may read in the repository as long as its group has a grant on the realm. -/
theorem decision_turns_sample :
    ∃ log w d v u r, Run .start log w ∧ Step w d v ∧ w.store.user ⟨"ann"⟩ = .ok u ∧
      w.store.resources.get? ⟨"repo"⟩ = some r ∧
      (w.store.lookups.decision ⟨"ann"⟩ (Mask.single .read) ⟨"repo"⟩).map Decision.allow =
        .ok true ∧
      (v.store.lookups.decision ⟨"ann"⟩ (Mask.single .read) ⟨"repo"⟩).map Decision.allow =
        .ok false ∧
      d.Closes u r .read := by
  let first := Stage.start.reach (Change.sample.take 8)
  let second := first.2.reach [.deleteAccess ⟨"realm"⟩ ⟨"devs"⟩]
  have run : Run .start first.1 first.2 := Stage.run_reach _ _
  have step : Step first.2 ⟨.deleteAccess ⟨"realm"⟩ ⟨"devs"⟩, true⟩ second.2 :=
    Stage.step_of_next (c := .deleteAccess ⟨"realm"⟩ ⟨"devs"⟩) rfl
  obtain ⟨u, known⟩ : ∃ u, first.2.store.user ⟨"ann"⟩ = .ok u := ⟨_, rfl⟩
  obtain ⟨r, target⟩ : ∃ r, first.2.store.resources.get? ⟨"repo"⟩ = some r := ⟨_, rfl⟩
  have other : u.info.id ≠ ⟨"repo"⟩ := by
    cases known
    decide
  obtain ⟨before, after, first_eq, second_eq, -, closes, -, -⟩ :=
    decision_turns run step known target other .read
  have yes : (first.2.store.lookups.decision ⟨"ann"⟩ (Mask.single .read) ⟨"repo"⟩).map
      Decision.allow = .ok true := rfl
  have no : (second.2.store.lookups.decision ⟨"ann"⟩ (Mask.single .read) ⟨"repo"⟩).map
      Decision.allow = .ok false := rfl
  refine ⟨_, _, _, _, u, r, run, step, known, target, yes, no, closes ?_ ?_⟩
  · rw [first_eq] at yes
    exact Except.ok.inj yes
  · rw [second_eq] at no
    exact Except.ok.inj no

end AccessControl
