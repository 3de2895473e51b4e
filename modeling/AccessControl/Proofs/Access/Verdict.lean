/-
  AccessControl/Proofs/Access/Verdict.lean
  ========================================
  **Decisions follow the relation of grants, and nothing else.**

  An authorizer finds its way along references: from a login to a user, from the user to
  its grants and its groups, from a resource to its parent.  What it should answer is said
  without any of them, from the objects that are stored and from the grants as a relation
  between resources and parties (`Store.verdict`).

  The two agree on every store that can be reached.  No look-up on the way can fail, since
  everything that is referred to is there (`Store.Sound`), and what is
  found among the grants of a holder is what is found by searching all grants for a pair.

  ## Main definitions

  * `Store.userWith?`, `Store.grantFor?`, `Store.verdict`: the answer, from the relation.

  ## Main statements

  * `grantOf_eq`, `firstGrant_eq`: the walk along the references finds what the relation
    says, for one holder and for a row of holders;
  * `allow_verdict`: when the answer is yes;
  * `decision_eq_verdict`: the two agree.
-/
import AccessControl.Access.Authorizer
import AccessControl.Proofs.Store.Connected

namespace AccessControl

/-! ## 1. The answer, from the relation -/

namespace Store

/-- The user with a login, among all parties. -/
def userWith? (s : Store) (login : UserId) : Option User :=
  (s.parties.values.filterMap Party.user?).find? fun u => u.userId == login

def entryGiving? (s : Store) (p : Permission) (resourceId partyId : ObjectId) : Option AclEntry :=
  (s.entryFor? resourceId partyId).filter fun e => e.mask.contains p

/-- What a party holds: its grant on the resource, or else the one on the parent. -/
def grantFor? (s : Store) (p : Permission) (r : Resource) (partyId : ObjectId) : Option Grant :=
  match s.entryGiving? p r.id partyId with
  | some e => some ⟨partyId, e.id, r.id, .direct⟩
  | none => r.parentId.bind fun parentId =>
    (s.entryGiving? p parentId partyId).map fun e => ⟨partyId, e.id, parentId, .parent⟩

/-- The answer to a question.  Of the user and its groups, in the order of joining, the
    first that holds a grant counts. -/
def verdict (s : Store) (login : UserId) (p : Permission) (id : ObjectId) :
    Except Failure Decision :=
  match s.userWith? login with
  | none => .error (Failure.identityUnresolved login.value)
  | some u =>
    if u.info.id = id then .ok (.ownAccount p)
    else
      match s.resources.get? id with
      | none => .error (Failure.noSuch "resource" id.value)
      | some r =>
        match (u.info.id :: u.groupIds).findSome? (s.grantFor? p r) with
        | some g => .ok (.granted p g)
        | none => .ok (.denied p)

end Store

/-! ## 2. Looking up what is there -/

section Lookups

variable {s : Store}

theorem lookups_resource {id : ObjectId} {r : Resource} (h : s.resources.get? id = some r) :
    s.lookups.resource id = .ok r := by
  show (s.resource id).mapError Refusal.failure = .ok r
  rw [mapError_eq_ok, Store.resource, found_eq_ok]
  exact h

theorem lookups_party {id : ObjectId} {p : Party} (h : s.parties.get? id = some p) :
    s.lookups.party id = .ok p := by
  show (s.party id).mapError Refusal.failure = .ok p
  rw [mapError_eq_ok, Store.party, found_eq_ok]
  exact h

theorem lookups_entry {id : ObjectId} {e : AclEntry} :
    s.lookups.entry id = .ok e ↔ s.entries.get? id = some e := by
  show (s.entry id).mapError Refusal.failure = .ok e ↔ _
  rw [mapError_eq_ok, Store.entry, found_eq_ok]

theorem grantAmong?_of_party (h : s.Linked) {partyId : ObjectId} {entries : List AclEntry}
    (own : ∀ e, e ∈ entries ↔ s.entries.get? e.id = some e ∧ e.partyId = partyId)
    (p : Permission) (resourceId : ObjectId) :
    grantAmong? entries resourceId p = s.entryGiving? p resourceId partyId := by
  have alone : Unique entries fun e => e.grants resourceId p := by
    intro a ha b hb hpa hpb
    obtain ⟨stored, named⟩ := (own a).1 ha
    obtain ⟨stored', named'⟩ := (own b).1 hb
    simp only [AclEntry.grants, Bool.and_eq_true, beq_iff_eq] at hpa hpb
    have sameId : a.id = b.id :=
      h.single _ _ _ _ stored stored' (hpa.1.trans hpb.1.symm) (named.trans named'.symm)
    rw [sameId, stored'] at stored
    exact (Option.some.inj stored).symm
  apply Option.ext
  intro e
  rw [grantAmong?, find?_eq_some_of_unique alone, own, Store.entryGiving?,
    Option.filter_eq_some_iff, h.entryFor?_eq_some]
  simp only [AclEntry.grants, Bool.and_eq_true, beq_iff_eq]
  constructor
  · rintro ⟨⟨stored, named⟩, on, gives⟩
    exact ⟨⟨stored, on, named⟩, gives⟩
  · rintro ⟨⟨stored, on, named⟩, gives⟩
    exact ⟨⟨stored, named⟩, on, gives⟩

theorem entries_of_party (h : s.Linked) {holder : Party}
    (stored : s.parties.get? holder.id = some holder) :
    ∃ entries, holder.info.entryIds.mapM s.lookups.entry = .ok entries ∧
      ∀ e, e ∈ entries ↔ s.entries.get? e.id = some e ∧ e.partyId = holder.id := by
  have listed := Shelf.view_of_get? (f := fun p : Party => p.info.entryIds) stored
  obtain ⟨entries, found, mem⟩ := mapM_eq_ok (f := s.lookups.entry) (l := holder.info.entryIds)
    (by
      intro k hk
      obtain ⟨e, he, _⟩ := (h.ofParties.mem _ _ listed k).1 hk
      exact ⟨e, lookups_entry.2 he⟩)
  refine ⟨entries, found, ?_⟩
  intro e
  rw [mem]
  constructor
  · rintro ⟨k, hk, he⟩
    have he := lookups_entry.1 he
    obtain ⟨e', he', named⟩ := (h.ofParties.mem _ _ listed k).1 hk
    rw [he] at he'
    cases he'
    rw [h.keyed k e he]
    exact ⟨he, named⟩
  · rintro ⟨he, named⟩
    exact ⟨e.id, (h.ofParties.mem _ _ listed _).2 ⟨e, he, named⟩, lookups_entry.2 he⟩

/-! ## 3. Walking along the references -/

/-- What the authorizer finds for one holder is what the relation says. -/
theorem grantOf_eq (h : s.Sound) {r : Resource} (placed : r.Placed s) {holder : Party}
    (stored : s.parties.get? holder.id = some holder) (p : Permission) :
    s.lookups.grantOf p r holder = .ok (s.grantFor? p r holder.id) := by
  obtain ⟨entries, found, own⟩ := entries_of_party h.linked stored
  have among := grantAmong?_of_party h.linked own p
  unfold Lookups.grantOf Store.grantFor?
  rw [found]
  show (match grantAmong? entries r.id p with
    | some e => _
    | none => _) = _
  rw [among r.id]
  -- the parent is looked up only if there is nothing on the resource itself
  rcases s.entryGiving? p r.id holder.id with _ | e
  · rcases hparent : r.parentId with _ | parentId
    · rfl
    · rw [Resource.Placed, hparent] at placed
      obtain ⟨parent, above, _⟩ := placed
      have ownId : parent.id = parentId := h.resources _ _ above
      show (s.lookups.resource parentId >>= _) = _
      rw [lookups_resource above]
      show Except.ok _ = _
      rw [among, ownId]
      rfl
  · rfl

/-- What the authorizer finds for a row of holders is the first that the relation gives. -/
theorem firstGrant_eq (h : s.Sound) {r : Resource} (placed : r.Placed s) (p : Permission)
    {groupIds : List ObjectId}
    (joined : ∀ k ∈ groupIds, ∃ g, s.parties.get? k = some (.group g)) {holder : Party}
    (stored : s.parties.get? holder.id = some holder) :
    s.lookups.firstGrant p r holder groupIds =
      .ok ((holder.id :: groupIds).findSome? (s.grantFor? p r)) := by
  induction groupIds generalizing holder with
  | nil =>
    rw [Lookups.firstGrant, grantOf_eq h placed stored p, List.findSome?_cons,
      List.findSome?_nil]
    cases s.grantFor? p r holder.id <;> rfl
  | cons k groupIds ih =>
    rw [Lookups.firstGrant, grantOf_eq h placed stored p, List.findSome?_cons]
    rcases s.grantFor? p r holder.id with _ | g
    · -- nothing was found for this holder, and the next one is a stored group
      obtain ⟨g, hg⟩ := joined k (List.mem_cons_self ..)
      have ownId : (Party.group g).id = k := h.parties k _ hg
      show (s.lookups.party k >>= fun q => s.lookups.firstGrant p r q groupIds) = _
      rw [lookups_party hg]
      rw [← ownId] at hg
      refine (ih (fun k' hk' => joined k' (List.mem_cons_of_mem _ hk')) hg).trans ?_
      rw [ownId]
    · rfl

/-! ## 4. Decisions -/

theorem user_eq_ok_iff_userWith? (h : s.Sound) {login : UserId} {u : User} :
    s.user login = .ok u ↔ s.userWith? login = some u := by
  have stored : ∀ u', u' ∈ s.parties.values.filterMap Party.user? ↔
      s.parties.get? u'.info.id = some (.user u') := by
    intro u'
    rw [List.mem_filterMap]
    constructor
    · rintro ⟨p, hp, isUser⟩
      obtain ⟨k, hk⟩ := Shelf.mem_values.1 hp
      cases p with
      | group g => cases isUser
      | user u'' =>
        cases isUser
        have own : u'.info.id = k := h.parties k _ hk
        exact own ▸ hk
    · intro hu
      exact ⟨.user u', Shelf.mem_values.2 ⟨_, hu⟩, rfl⟩
  -- the logins lead to whoever has the login, so nobody else has it
  have alone : Unique (s.parties.values.filterMap Party.user?) fun u' => u'.userId == login := by
    intro a ha b hb hla hlb
    have found := h.user_eq_ok.2 ⟨(stored a).1 ha, beq_iff_eq.1 hla⟩
    rw [h.user_eq_ok.2 ⟨(stored b).1 hb, beq_iff_eq.1 hlb⟩] at found
    cases found
    rfl
  rw [h.user_eq_ok, Store.userWith?, find?_eq_some_of_unique alone, stored, beq_iff_eq]

theorem account_eq (h : s.Sound) (login : UserId) :
    s.lookups.account login =
      match s.userWith? login with
      | some u => .ok u
      | none => .error (Failure.identityUnresolved login.value) := by
  rcases found : s.userWith? login with _ | u
  · have absent : ∀ u, s.user login ≠ .ok u := by
      intro u hu
      rw [(user_eq_ok_iff_userWith? h).1 hu] at found
      cases found
    have refused : s.lookups.user login = .error (Failure.noSuch "user" login.value) := by
      show (s.user login).mapError Refusal.failure = _
      unfold Store.user at absent ⊢
      rcases hu : ((s.logins.get? login).bind s.parties.get?).bind Party.user? with _ | u
      · rfl
      · rw [hu] at absent
        exact absurd rfl (absent u)
    rw [Lookups.account, refused]
    rfl
  · rw [Lookups.account_eq_ok]
    show (s.user login).mapError Refusal.failure = .ok u
    rw [mapError_eq_ok]
    exact (user_eq_ok_iff_userWith? h).2 found

theorem decisionOn_of_user (h : s.Sound) {login : UserId} {u : User}
    (known : s.userWith? login = some u) (p : Permission) (id : ObjectId) :
    s.lookups.decisionOn login p id = s.verdict login p id := by
  have account := account_eq h login
  rw [known] at account
  obtain ⟨stored, _⟩ := h.user_eq_ok.1 ((user_eq_ok_iff_userWith? h).2 known)
  unfold Lookups.decisionOn Store.verdict
  rw [account, known]
  show (if u.info.id = id then _ else _) = _
  by_cases own : u.info.id = id
  · rw [if_pos own]
    exact (if_pos own).symm
  · rw [if_neg own]
    refine Eq.trans ?_ (if_neg own).symm
    rcases target : s.resources.get? id with _ | r
    · have refused : s.lookups.resource id = .error (Failure.noSuch "resource" id.value) := by
        show (Store.found _ (s.resources.get? id)).mapError Refusal.failure = _
        rw [target]
        rfl
      show (s.lookups.resource id >>= _) = _
      rw [refused]
      rfl
    · show (s.lookups.resource id >>= _) = _
      rw [lookups_resource target]
      show (s.lookups.firstGrant p r (.user u) u.groupIds >>= _) = _
      have joined := h.connected.joined u.info.id u.groupIds (Shelf.view_of_get? stored)
      have stored : s.parties.get? (Party.user u).id = some (.user u) := stored
      rw [firstGrant_eq h (h.connected.placed id r target) p joined stored]
      rfl

theorem decision_single (l : Lookups) (login : UserId) (p : Permission) (id : ObjectId) :
    l.decision login (Mask.single p) id = l.decisionOn login p id := by
  rw [Lookups.decision, Mask.singleAction_single]

/-! ## 5. Whether the answer is yes -/

theorem isSome_grantFor? (p : Permission) (r : Resource) (partyId : ObjectId) :
    (s.grantFor? p r partyId).isSome = true ↔
      (s.entryGiving? p r.id partyId).isSome = true ∨
        ∃ parentId, r.parentId = some parentId ∧
          (s.entryGiving? p parentId partyId).isSome = true := by
  unfold Store.grantFor?
  rcases s.entryGiving? p r.id partyId with _ | e
  · rcases r.parentId with _ | parentId
    · simp
    · simp
  · simp

/-- Who asks about something that is stored, and is not its own account, is told yes
    exactly if one of the holders has a grant. -/
theorem allow_verdict {login : UserId} {u : User} {p : Permission} {id : ObjectId} {r : Resource}
    (known : s.userWith? login = some u) (other : u.info.id ≠ id)
    (target : s.resources.get? id = some r) :
    ∃ allow, (s.verdict login p id).map Decision.allow = .ok allow ∧
      (allow = true ↔ ∃ c ∈ u.info.id :: u.groupIds, (s.grantFor? p r c).isSome = true) := by
  unfold Store.verdict
  rw [known]
  simp only [if_neg other, target]
  rcases first : (u.info.id :: u.groupIds).findSome? (s.grantFor? p r) with _ | g
  · refine ⟨false, rfl, ?_⟩
    rw [List.findSome?_eq_none_iff] at first
    constructor
    · intro no
      cases no
    · rintro ⟨c, hc, holds⟩
      rw [first c hc] at holds
      cases holds
  · refine ⟨true, rfl, fun _ => ?_, fun _ => rfl⟩
    obtain ⟨c, hc, holds⟩ := List.exists_of_findSome?_eq_some first
    exact ⟨c, hc, by rw [holds]; rfl⟩

end Lookups

/-! ## 6. The answer of the authorizer -/

/-- On every store that can be reached, whatever the token, the permission and the object:
    the authorizer's answer is the verdict. -/
theorem decision_eq_verdict {s : Store} (h : Reached s) (token : SessionToken) (p : Permission)
    (id : ObjectId) :
    s.lookups.decision token.userId (Mask.single p) id = s.verdict token.userId p id := by
  have sound := h.sound
  rw [decision_single]
  rcases known : s.userWith? token.userId with _ | u
  · have account := account_eq sound token.userId
    rw [known] at account
    rw [Lookups.decisionOn, Store.verdict, account, known]
    rfl
  · exact decisionOn_of_user sound known p id

theorem decision_eq_verdict_sample :
    Reached (.after Change.sample) ∧
      (Store.after Change.sample).lookups.decision ⟨"ann"⟩ (Mask.single .write) ⟨"repo"⟩ =
        .ok (.granted .write ⟨⟨"devs"⟩, ⟨"second"⟩, ⟨"realm"⟩, .parent⟩) := by
  have reached := reached_after Change.sample
  exact ⟨reached, (decision_eq_verdict reached ⟨⟨"session"⟩, ⟨"ann"⟩⟩ .write ⟨"repo"⟩).trans rfl⟩

end AccessControl
