/-
  AccessControl/Proofs/Access/Unreliable.lean
  ===========================================
  **Decisions on a backend that may fail anywhere.**

  Any look-up of a backend may fail, at any place of a decision.  An answer is given all the
  same where one is justified, and nothing is guessed where it is not:

  * who is denied was denied after everything in the order of consultation was looked up,
    and nothing that was found gives the permission;
  * who gets a failure gets that of the first look-up in this order that fails, and no
    holder whose grants had all been found before had a grant that counts;
  * who is granted something by a holder is granted it whatever anything else would have
    answered that had not been looked up by then.

  A grant that was fetched does not count before all grants of its holder are: a failure
  among them comes first.  The same holds for the parent, which the user's grants on it have
  to wait for.  A group's failure, however, does not touch what a holder before it is
  granted.

  ## Main definitions

  * `Lookups.Counts`: a grant is on the target, or on its parent;
  * `Lookups.Settles`: a grant settles a question;
  * `Lookups.GrantsAmong`: some look-ups are enough to find a grant.

  ## Main statements

  * `grantOf_eq_none`, `grantOf_eq_some`, `grantOf_eq_error`: what is found for a holder;
  * `asked_prefix_order`: the order of consultation is followed;
  * `denied_after_all`, `no_grant_before`, `granted_by_last`: what comes before a denial, a
    failure and a grant;
  * `decision_justified`: all of the above.
-/
import AccessControl.Proofs.Access.Consultation
import AccessControl.Proofs.Access.Verdict

namespace AccessControl

/-! ## 1. Looking up a row -/

section Rows

variable {ε α β : Type} {f : α → Except ε β} {l : List α}

theorem mem_of_mapM {bs : List β} (h : l.mapM f = .ok bs) (b : β) :
    b ∈ bs ↔ ∃ a ∈ l, f a = .ok b := by
  induction l generalizing bs with
  | nil =>
    cases h
    simp
  | cons a l ih =>
    rw [List.mapM_cons] at h
    obtain ⟨b', hb', h⟩ := bind_eq_ok.1 h
    obtain ⟨bs', hbs', h⟩ := bind_eq_ok.1 h
    cases h
    simp [ih hbs', hb', eq_comm]

theorem exists_of_mapM_error {e : ε} (h : l.mapM f = .error e) : ∃ a ∈ l, f a = .error e := by
  induction l with
  | nil => cases h
  | cons a l ih =>
    rw [List.mapM_cons] at h
    rcases ha : f a with e' | b
    · rw [ha] at h
      cases h
      exact ⟨a, List.mem_cons_self .., ha⟩
    · rcases hl : l.mapM f with e' | bs
      · rw [ha, hl] at h
        cases h
        obtain ⟨a', ha', failed⟩ := ih hl
        exact ⟨a', List.mem_cons_of_mem _ ha', failed⟩
      · rw [ha, hl] at h
        cases h

end Rows

/-! ## 2. What is found for a holder -/

namespace Lookups

/-- A grant is on the target, or on its parent. -/
def Counts (l : Lookups) (r : Resource) (e : AclEntry) : Prop :=
  e.resourceId = r.id ∨
    ∃ parentId parent, r.parentId = some parentId ∧ l.resource parentId = .ok parent ∧
      e.resourceId = parent.id

/-- A grant of a holder settles a question: it gives the permission on the target, or on its
    parent. -/
def Settles (l : Lookups) (p : Permission) (r : Resource) (holder : Party) (g : Grant) : Prop :=
  ∃ k ∈ holder.info.entryIds, ∃ e, l.entry k = .ok e ∧ e.mask.contains p = true ∧
    ((e.resourceId = r.id ∧ g = ⟨holder.id, e.id, r.id, .direct⟩) ∨
      ∃ parentId parent, r.parentId = some parentId ∧ l.resource parentId = .ok parent ∧
        e.resourceId = parent.id ∧ g = ⟨holder.id, e.id, parent.id, .parent⟩)

section Holder

variable {l : Lookups} {p : Permission} {r : Resource} {holder : Party}

theorem grantAmong?_eq_none {found : List AclEntry} {resource : ObjectId}
    (h : grantAmong? found resource p = none) {e : AclEntry} (he : e ∈ found)
    (on : e.resourceId = resource) : e.mask.contains p = false := by
  have refused := List.find?_eq_none.1 h e he
  simpa [AclEntry.grants, on] using refused

/-- Nothing is found for a holder only if none of its grants counts and gives the
    permission. -/
theorem grantOf_eq_none (h : l.grantOf p r holder = .ok none) :
    ∀ k ∈ holder.info.entryIds, ∀ e, l.entry k = .ok e → l.Counts r e →
      e.mask.contains p = false := by
  intro k hk e he counts
  rcases all : holder.info.entryIds.mapM l.entry with f | found
  · rw [grantOf, all] at h
    cases h
  · have fetched : e ∈ found := (mem_of_mapM all e).2 ⟨k, hk, he⟩
    rcases direct : grantAmong? found r.id p with _ | e'
    · rcases counts with on | ⟨parentId, parent, above, answer, on⟩
      · exact grantAmong?_eq_none direct fetched on
      · rw [Consultation.grantOf_parent all direct above answer] at h
        have beside := Option.map_eq_none_iff.1 (Except.ok.inj h)
        exact grantAmong?_eq_none beside fetched on
    · rw [Consultation.grantOf_direct all direct] at h
      cases h

/-- What is found for a holder settles the question. -/
theorem grantOf_eq_some {g : Grant} (h : l.grantOf p r holder = .ok (some g)) :
    l.Settles p r holder g := by
  rcases all : holder.info.entryIds.mapM l.entry with f | found
  · rw [grantOf, all] at h
    cases h
  · rcases direct : grantAmong? found r.id p with _ | e
    · rcases above : r.parentId with _ | parentId
      · rw [Consultation.grantOf_root all direct above] at h
        cases h
      · rcases answer : l.resource parentId with f | parent
        · rw [Consultation.grantOf_parent_error all direct above answer] at h
          cases h
        · rw [Consultation.grantOf_parent all direct above answer] at h
          obtain ⟨e, among, rfl⟩ := Option.map_eq_some_iff.1 (Except.ok.inj h)
          obtain ⟨fetched, grants⟩ := grantAmong?_eq_some among
          obtain ⟨k, hk, he⟩ := (mem_of_mapM all e).1 fetched
          simp only [AclEntry.grants, Bool.and_eq_true, beq_iff_eq] at grants
          exact ⟨k, hk, e, he, grants.2, Or.inr ⟨parentId, parent, above, answer, grants.1, rfl⟩⟩
    · rw [Consultation.grantOf_direct all direct] at h
      cases h
      obtain ⟨fetched, grants⟩ := grantAmong?_eq_some direct
      obtain ⟨k, hk, he⟩ := (mem_of_mapM all e).1 fetched
      simp only [AclEntry.grants, Bool.and_eq_true, beq_iff_eq] at grants
      exact ⟨k, hk, e, he, grants.2, Or.inl ⟨grants.1, rfl⟩⟩

/-- Finding the grant of a holder fails if one of its grants cannot be looked up, or if none
    of them is on the target and the parent cannot be looked up. -/
theorem grantOf_eq_error {f : Failure} (h : l.grantOf p r holder = .error f) :
    (∃ k ∈ holder.info.entryIds, l.entry k = .error f) ∨
      (∀ k ∈ holder.info.entryIds, ∀ e, l.entry k = .ok e → e.resourceId = r.id →
        e.mask.contains p = false) ∧
      ∃ parentId, r.parentId = some parentId ∧ l.resource parentId = .error f := by
  rcases all : holder.info.entryIds.mapM l.entry with f' | found
  · rw [grantOf, all] at h
    cases h
    exact Or.inl (exists_of_mapM_error all)
  · rcases direct : grantAmong? found r.id p with _ | e
    · rcases above : r.parentId with _ | parentId
      · rw [Consultation.grantOf_root all direct above] at h
        cases h
      · rcases answer : l.resource parentId with f' | parent
        · rw [Consultation.grantOf_parent_error all direct above answer] at h
          cases h
          refine Or.inr ⟨?_, parentId, rfl, answer⟩
          intro k hk e he on
          exact grantAmong?_eq_none direct ((mem_of_mapM all e).2 ⟨k, hk, he⟩) on
        · rw [Consultation.grantOf_parent all direct above answer] at h
          cases h
    · rw [Consultation.grantOf_direct all direct] at h
      cases h

/-! ## 3. The walk from holder to holder -/

theorem Visits.nothing {last : Party} {passed : List ObjectId}
    (h : l.Visits p r holder passed last) {x : Party}
    (hx : x = holder ∨ ∃ k ∈ passed, l.party k = .ok x) :
    x = last ∨ l.grantOf p r x = .ok none := by
  induction h with
  | here holder =>
    rcases hx with rfl | ⟨k, hk, _⟩
    · exact Or.inl rfl
    · cases hk
  | on nothing found _ ih =>
    rcases hx with rfl | ⟨k, hk, answer⟩
    · exact Or.inr nothing
    · rcases List.mem_cons.1 hk with rfl | hk
      · rw [found] at answer
        cases answer
        exact ih (Or.inl rfl)
      · exact ih (Or.inr ⟨k, hk, answer⟩)

theorem Visits.last_eq {last : Party} {passed : List ObjectId}
    (h : l.Visits p r holder passed last) :
    (passed = [] ∧ last = holder) ∨ ∃ k, passed.getLast? = some k ∧ l.party k = .ok last := by
  induction h with
  | here holder => exact Or.inl ⟨rfl, rfl⟩
  | @on _ _ _ k _ _ found _ ih =>
    rcases ih with ⟨rfl, rfl⟩ | ⟨k', latest, answer⟩
    · exact Or.inr ⟨k, rfl, found⟩
    · exact Or.inr ⟨k', by rw [List.getLast?_cons, latest]; rfl, answer⟩

end Holder

/-! ## 4. What is asked -/

section Asked

variable {l : Lookups} {login : UserId} {id : ObjectId} {p : Permission} {u : User} {r : Resource}

theorem order_of_found (answer : l.user login = .ok u) (target : l.resource id = .ok r) :
    l.order login id = [.user login, .resource id] ++ l.walk u r u.groupIds := by
  simp [order, answer, target]

theorem walk_append (passed rest : List ObjectId) :
    l.walk u r (passed ++ rest) = l.walk u r passed ++ rest.flatMap l.groupInquiries := by
  simp [walk]

theorem holder_of_entry_mem {passed : List ObjectId} {k : ObjectId}
    (asked : Inquiry.entry k ∈ [.user login, .resource id] ++ l.walk u r passed) :
    ∃ x, (x = .user u ∨ ∃ j ∈ passed, l.party j = .ok x) ∧ k ∈ x.info.entryIds := by
  simp only [walk, Party.inquiries, Resource.inquiries, List.mem_append, List.mem_cons,
    List.mem_map, List.mem_flatMap, Inquiry.entry.injEq, exists_eq_right, reduceCtorEq,
    List.not_mem_nil, and_false, exists_false, or_false, false_or] at asked
  rcases asked with own | ⟨j, hj, asked⟩
  · exact ⟨.user u, Or.inl rfl, own⟩
  · rcases answer : l.party j with f | g
    · simp [groupInquiries, answer] at asked
    · refine ⟨g, Or.inr ⟨j, hj, answer⟩, ?_⟩
      simpa [groupInquiries, answer, Party.inquiries] using asked

theorem passed_of_party_mem {passed : List ObjectId} {j : ObjectId}
    (asked : Inquiry.party j ∈ [.user login, .resource id] ++ l.walk u r passed) : j ∈ passed := by
  simp only [walk, Party.inquiries, Resource.inquiries, List.mem_append, List.mem_cons,
    List.mem_map, List.mem_flatMap, reduceCtorEq, List.not_mem_nil, and_false, exists_false,
    or_false, false_or] at asked
  obtain ⟨k, hk, asked⟩ := asked
  have same : j = k := by
    rcases answer : l.party k with f | g
    · simpa [groupInquiries, answer] using asked
    · simpa [groupInquiries, answer, Party.inquiries] using asked
  exact same ▸ hk

theorem Ends.prefix_order {last : Party} {made asked : List Inquiry} {rest : List ObjectId}
    {answer : Except Failure Decision} (h : l.Ends p r last made rest answer asked) :
    asked <+: made ++ rest.flatMap l.groupInquiries := by
  cases h with
  | stuck _ part => exact part.trans (List.prefix_append _ _)
  | settled _ part => exact part.trans (List.prefix_append _ _)
  | lost =>
    rw [List.prefix_append_right_inj, List.flatMap_cons, groupInquiries]
    exact ⟨_, rfl⟩
  | denied => exact List.prefix_append _ _

theorem Ends.of_refused {last : Party} {made asked : List Inquiry} {rest : List ObjectId}
    {d : Decision} (h : l.Ends p r last made rest (.ok d) asked) (refused : d.allow = false) :
    rest = [] ∧ asked = made ∧ l.grantOf p r last = .ok none := by
  cases h with
  | settled => cases refused
  | denied nothing => exact ⟨rfl, rfl, nothing⟩

theorem Ends.of_grant {last : Party} {made asked : List Inquiry} {rest : List ObjectId}
    {d : Decision} (h : l.Ends p r last made rest (.ok d) asked) {g : Grant}
    (told : d.grant = some g) : l.grantOf p r last = .ok (some g) ∧ asked <+: made := by
  cases h with
  | settled grants part =>
    cases told
    exact ⟨grants, part⟩
  | denied => cases told

theorem asked_prefix_order (l : Lookups) (login : UserId) (p : Permission) (id : ObjectId) :
    (Consultation.decision login p id).asked l <+: l.order login id := by
  rcases Consultation.decision_cases l login p id with
    ⟨f, answer, _, asked⟩ | ⟨u, answer, ⟨_, _, asked⟩ | ⟨_, ⟨f, target, _, asked⟩ | away⟩⟩
  · rw [asked]
    exact ⟨_, rfl⟩
  · rw [asked]
    exact ⟨_, rfl⟩
  · rw [asked, order, answer]
    exact ⟨_, rfl⟩
  · obtain ⟨r, passed, rest, last, target, split, _, ends⟩ := away
    rw [order_of_found answer target, split, walk_append, ← List.append_assoc]
    exact ends.prefix_order

end Asked

/-! ## 5. Nothing is guessed -/

/-- The look-ups are enough to find a grant: they include all grants of the user, or a group
    of the user and all its grants, and one of these counts and gives the permission. -/
def GrantsAmong (l : Lookups) (p : Permission) (u : User) (r : Resource)
    (asked : List Inquiry) : Prop :=
  ∃ holder,
    (holder = .user u ∨ ∃ j ∈ u.groupIds, .party j ∈ asked ∧ l.party j = .ok holder) ∧
    (∀ k ∈ holder.info.entryIds, .entry k ∈ asked) ∧
    ∃ k ∈ holder.info.entryIds, ∃ e, l.entry k = .ok e ∧ l.Counts r e ∧ e.mask.contains p = true

section Guessing

variable {l : Lookups} {login : UserId} {id : ObjectId} {p : Permission} {u : User} {r : Resource}
  {passed rest : List ObjectId} {last : Party} {made asked : List Inquiry}

theorem nothing_of_denied (visits : l.Visits p r (.user u) passed last)
    (nothing : l.grantOf p r last = .ok none) {k : ObjectId} {e : AclEntry}
    (hk : Inquiry.entry k ∈ [.user login, .resource id] ++ l.walk u r passed)
    (he : l.entry k = .ok e) (counts : l.Counts r e) : e.mask.contains p = false := by
  obtain ⟨x, hx, own⟩ := holder_of_entry_mem hk
  rcases visits.nothing hx with rfl | nothing'
  · exact grantOf_eq_none nothing k own e he counts
  · exact grantOf_eq_none nothing' k own e he counts

theorem not_grantsAmong (visits : l.Visits p r (.user u) passed last) {f : Failure}
    (ends : l.Ends p r last ([.user login, .resource id] ++ l.walk u r passed) rest (.error f)
      asked) {before : List Inquiry} (sub : ∀ q ∈ before, q ∈ asked)
    (fine : ∀ q ∈ before, l.fault? q = none) : ¬l.GrantsAmong p u r before := by
  rintro ⟨x, hx, complete, k, hk, e, he, counts, gives⟩
  -- the holder is one that the walk has come to
  have met : x = .user u ∨ ∃ j ∈ passed, l.party j = .ok x := by
    rcases hx with rfl | ⟨j, _, hj, answer⟩
    · exact Or.inl rfl
    · refine Or.inr ⟨j, ?_, answer⟩
      cases ends with
      | stuck _ part => exact passed_of_party_mem (part.subset (sub _ hj))
      | lost _ failed =>
        rcases List.mem_append.1 (sub _ hj) with hj | hj
        · exact passed_of_party_mem hj
        · cases List.mem_singleton.1 hj
          rw [failed] at answer
          cases answer
  have refused : l.grantOf p r x ≠ .ok none := by
    intro nothing
    rw [grantOf_eq_none nothing k hk e he counts] at gives
    cases gives
  rcases visits.nothing met with rfl | nothing
  · cases ends with
    | lost nothing => exact refused nothing
    | stuck failed =>
      rcases grantOf_eq_error failed with ⟨k', hk', missing⟩ | ⟨direct, parentId, above, missing⟩
      · -- a grant that cannot be looked up was not among what was found before
        have found := fine _ (complete k' hk')
        have missing' : l.reply (.entry k') = .error f := missing
        rw [fault?_of_error missing'] at found
        cases found
      · rcases counts with on | ⟨parentId', parent, above', answer, _⟩
        · rw [direct k hk e he on] at gives
          cases gives
        · rw [above] at above'
          cases above'
          rw [missing] at answer
          cases answer
  · exact refused nothing

end Guessing

/-! ## 6. Where a decision comes from -/

section Decisions

variable {l : Lookups} {login : UserId} {id : ObjectId} {p : Permission}

/-- A denial comes after the whole order of consultation, in which nothing gives the
    permission. -/
theorem denied_after_all {d : Decision} (hd : (Consultation.decision login p id).run l = .ok d)
    (refused : d.allow = false) :
    (Consultation.decision login p id).asked l = l.order login id ∧
      ∃ u r, l.user login = .ok u ∧ l.resource id = .ok r ∧
        ∀ k e, .entry k ∈ l.order login id → l.entry k = .ok e → l.Counts r e →
          e.mask.contains p = false := by
  rcases Consultation.decision_cases l login p id with
    ⟨f, answer, run, _⟩ | ⟨u, answer, ⟨_, run, _⟩ | ⟨_, ⟨f, target, run, _⟩ | away⟩⟩
  · rw [run] at hd
    cases hd
  · -- nobody is denied anything about the own account
    rw [run] at hd
    cases hd
    cases refused
  · rw [run] at hd
    cases hd
  · obtain ⟨r, passed, rest, last, target, split, visits, ends⟩ := away
    rw [hd] at ends
    obtain ⟨rfl, asked, nothing⟩ := ends.of_refused refused
    have all : l.order login id = [.user login, .resource id] ++ l.walk u r passed := by
      rw [order_of_found answer target, split, List.append_nil]
    rw [all]
    refine ⟨asked, u, r, answer, target, fun k e hk he counts => ?_⟩
    exact nothing_of_denied visits nothing hk he counts

/-- When a decision fails, what was looked up before is not enough to find a grant. -/
theorem no_grant_before {f : Failure} (failed : (Consultation.decision login p id).run l = .error f)
    {before : List Inquiry}
    (sub : ∀ q ∈ before, q ∈ (Consultation.decision login p id).asked l)
    (fine : ∀ q ∈ before, l.fault? q = none) {u : User} {r : Resource}
    (answer : l.user login = .ok u) (target : l.resource id = .ok r) :
    ¬l.GrantsAmong p u r before := by
  rcases Consultation.decision_cases l login p id with
    ⟨f', answer', _, _⟩ | ⟨u', answer', ⟨_, run, _⟩ | ⟨_, ⟨f', target', _, _⟩ | away⟩⟩
  · rw [answer] at answer'
    cases answer'
  · rw [run] at failed
    cases failed
  · rw [target] at target'
    cases target'
  · obtain ⟨r', passed, rest, last, target', split, visits, ends⟩ := away
    rw [answer] at answer'
    cases answer'
    rw [target] at target'
    cases target'
    rw [failed] at ends
    exact not_grantsAmong visits ends sub fine

/-- A grant is one of the last holder that anything was asked about. -/
theorem granted_by_last {d : Decision} {g : Grant}
    (hd : (Consultation.decision login p id).run l = .ok d) (told : d.grant = some g) :
    ∃ u r passed rest holder, l.user login = .ok u ∧ l.resource id = .ok r ∧
      u.groupIds = passed ++ rest ∧
      ((passed = [] ∧ holder = .user u) ∨
        ∃ k, passed.getLast? = some k ∧ l.party k = .ok holder) ∧
      l.Settles p r holder g ∧
      (Consultation.decision login p id).asked l <+:
        [.user login, .resource id] ++ l.walk u r passed := by
  rcases Consultation.decision_cases l login p id with
    ⟨f, answer, run, _⟩ | ⟨u, answer, ⟨_, run, _⟩ | ⟨_, ⟨f, target, run, _⟩ | away⟩⟩
  · rw [run] at hd
    cases hd
  · rw [run] at hd
    cases hd
    cases told
  · rw [run] at hd
    cases hd
  · obtain ⟨r, passed, rest, last, target, split, visits, ends⟩ := away
    rw [hd] at ends
    obtain ⟨grants, part⟩ := ends.of_grant told
    exact ⟨u, r, passed, rest, last, answer, target, split, visits.last_eq,
      grantOf_eq_some grants, part⟩

end Decisions

end Lookups

/-! ## 7. Decisions are justified -/

/-- On every backend, for every user, permission and target, the consultation gives the
    decision.  The order of consultation is followed up to the look-ups that are made, and
    these alone determine the decision.
    A denial comes after all look-ups in the order, which all succeed without a grant that
    counts and gives the permission.  A failure is that of the last look-up made, the only
    one that fails, before which no grant was found; only of a user that is not found
    it is said that the identity is unresolved.  A grant is one of the last holder that
    anything was asked about. -/
theorem decision_justified (l : Lookups) (token : SessionToken) (p : Permission) (id : ObjectId) :
    let login := token.userId
    let decided := l.decision login (Mask.single p) id
    let made := (Consultation.decision login p id).asked l
    (Consultation.decision login p id).run l = decided ∧
    made <+: l.order login id ∧
    (∀ l' : Lookups, (∀ q ∈ made, l'.reply q = l.reply q) →
      l'.decision login (Mask.single p) id = decided) ∧
    (∀ d, decided = .ok d → d.allow = false →
      made = l.order login id ∧ (∀ q ∈ l.order login id, l.fault? q = none) ∧
      ∃ u r, l.user login = .ok u ∧ l.resource id = .ok r ∧
        ∀ k e, .entry k ∈ l.order login id → l.entry k = .ok e → l.Counts r e →
          e.mask.contains p = false) ∧
    (∀ f, decided = .error f →
      ∃ before q g, made = before ++ [q] ∧ (∀ q' ∈ before, l.fault? q' = none) ∧
        l.fault? q = some g ∧ f = q.reported g ∧
        ∀ u r, l.user login = .ok u → l.resource id = .ok r → ¬l.GrantsAmong p u r before) ∧
    ∀ d g, decided = .ok d → d.grant = some g →
      ∃ u r passed rest holder, l.user login = .ok u ∧ l.resource id = .ok r ∧
        u.groupIds = passed ++ rest ∧
        ((passed = [] ∧ holder = .user u) ∨
          ∃ k, passed.getLast? = some k ∧ l.party k = .ok holder) ∧
        l.Settles p r holder g ∧
        made <+: [.user login, .resource id] ++ l.walk u r passed := by
  intro login decided made
  have same : ∀ l' : Lookups,
      (Consultation.decision login p id).run l' = l'.decision login (Mask.single p) id := by
    intro l'
    rw [decision_single, Consultation.run_decision]
  refine ⟨same l, l.asked_prefix_order login p id, ?_, ?_, ?_, ?_⟩
  · intro l' alike
    rw [← same l', Consultation.run_congr alike]
    exact same l
  · intro d hd refused
    have hd := (same l).trans hd
    obtain ⟨all, u, r, answer, target, nothing⟩ := Lookups.denied_after_all hd refused
    refine ⟨all, ?_, u, r, answer, target, nothing⟩
    rw [← all]
    exact Consultation.fault?_of_run_ok hd
  · intro f failed
    have failed := (same l).trans failed
    obtain ⟨before, q, g, asked, fine, fault, reported⟩ :=
      Consultation.last_of_run_error failed
    refine ⟨before, q, g, asked, fine, fault, reported, fun u r answer target => ?_⟩
    refine Lookups.no_grant_before failed (fun q' hq' => ?_) fine answer target
    rw [asked]
    exact List.mem_append_left _ hq'
  · intro d g hd told
    exact Lookups.granted_by_last ((same l).trans hd) told

def Lookups.losing (l : Lookups) (lost : ObjectId) (f : Failure) : Lookups where
  resource id := if id = lost then .error f else l.resource id
  party id := if id = lost then .error f else l.party id
  entry id := if id = lost then .error f else l.entry id
  user := l.user

theorem decision_justified_sample :
    let l := (Store.after Change.sample).lookups.losing ⟨"second"⟩ (.unavailable "offline")
    let made := (Consultation.decision ⟨"ann"⟩ .write ⟨"repo"⟩).asked l
    l.decision ⟨"ann"⟩ (Mask.single .write) ⟨"repo"⟩ = .error (.unavailable "offline") ∧
      made <+: l.order ⟨"ann"⟩ ⟨"repo"⟩ ∧
      ∃ before q f, made = before ++ [q] ∧ (∀ q' ∈ before, l.fault? q' = none) ∧
        l.fault? q = some f ∧ .unavailable "offline" = q.reported f := by
  intro l made
  have failed : l.decision ⟨"ann"⟩ (Mask.single .write) ⟨"repo"⟩ =
      .error (.unavailable "offline") := rfl
  obtain ⟨_, ordered, _, _, failure, _⟩ :=
    decision_justified l ⟨⟨"session"⟩, ⟨"ann"⟩⟩ .write ⟨"repo"⟩
  obtain ⟨before, q, f, asked, fine, fault, reported, _⟩ := failure _ failed
  exact ⟨failed, ordered, before, q, f, asked, fine, fault, reported⟩

end AccessControl
