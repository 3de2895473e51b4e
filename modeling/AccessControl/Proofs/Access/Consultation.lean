/-
  AccessControl/Proofs/Access/Consultation.lean
  =============================================
  **Which look-ups are made for a decision, and in which order.**

  A decision is a function of a backend, and does not tell what it asked of it.  Here it is
  written out as a *consultation*: a tree that either is done or asks one thing, and goes on
  according to the answer.  Such a tree can be run on any backend, and the look-ups that are
  made on the way can be listed.  Whatever the tree, a run that fails does so at its last
  look-up, and a run depends on the look-ups that are made and on nothing else.

  The consultation of a decision (`Consultation.decision`) looks the parent of the target up
  once, for the first holder that needs it, and keeps it for the groups that follow.  Its
  run is the decision (`run_decision`).  What it asks is laid out beforehand in one list,
  the order of consultation (`Lookups.order`), of which a decision follows an initial
  part (`decision_cases`).

  ## Main definitions

  * `Inquiry`, `Consultation`, `Consultation.run`, `Consultation.asked`;
  * `Consultation.decision`: the consultation of a decision;
  * `Lookups.order`: the order of consultation;
  * `Lookups.Visits`: the walk from holder to holder, as long as nothing is found.

  ## Main statements

  * `fault?_of_run_ok`, `last_of_run_error`, `run_congr`: what holds of any consultation;
  * `ofHolder_cases`, `ofHolders_concludes`: what is asked about one holder, and about a row
    of them;
  * `decision_cases`: where the consultation of a decision ends, and what it asked until
    then;
  * `run_decision`: the consultation of a decision gives the decision.
-/
import AccessControl.Access.Authorizer
import AccessControl.Proofs.Store.Change

namespace AccessControl

/-! ## 1. Consultations -/

/-- One look-up of a backend. -/
inductive Inquiry where
  | user (login : UserId)
  | resource (id : ObjectId)
  | party (id : ObjectId)
  | entry (id : ObjectId)
deriving DecidableEq

abbrev Inquiry.Answer : Inquiry → Type
  | .user _ => User
  | .resource _ => Resource
  | .party _ => Party
  | .entry _ => AclEntry

/-- How the failure of a look-up is passed on: as it is, but that there is no user with a
    login is a matter of identity. -/
def Inquiry.reported : Inquiry → Failure → Failure
  | .user login, f => if f.isNotFound then Failure.identityUnresolved login.value else f
  | _, f => f

namespace Lookups

def reply (l : Lookups) : (q : Inquiry) → Except Failure q.Answer
  | .user login => l.user login
  | .resource id => l.resource id
  | .party id => l.party id
  | .entry id => l.entry id

def fault? (l : Lookups) (q : Inquiry) : Option Failure :=
  match l.reply q with
  | .ok _ => none
  | .error f => some f

theorem fault?_of_ok {l : Lookups} {q : Inquiry} {a : q.Answer} (h : l.reply q = .ok a) :
    l.fault? q = none := by
  rw [fault?, h]

theorem fault?_of_error {l : Lookups} {q : Inquiry} {f : Failure} (h : l.reply q = .error f) :
    l.fault? q = some f := by
  rw [fault?, h]

end Lookups

/-- A computation that makes look-ups, each according to what was found before. -/
inductive Consultation (α : Type) where
  | done (a : α)
  | ask (q : Inquiry) (next : q.Answer → Consultation α)

namespace Consultation

variable {α : Type}

/-- What a consultation comes to.  The first look-up that fails ends it. -/
def run (l : Lookups) : Consultation α → Except Failure α
  | done a => .ok a
  | ask q next =>
    match l.reply q with
    | .ok a => (next a).run l
    | .error f => .error (q.reported f)

/-- The look-ups that are made, in their order. -/
def asked (l : Lookups) : Consultation α → List Inquiry
  | done _ => []
  | ask q next =>
    q :: match l.reply q with
      | .ok a => (next a).asked l
      | .error _ => []

theorem asked_done (l : Lookups) (a : α) : (done a).asked l = [] := rfl

section Answers

variable {l : Lookups} {q : Inquiry} {next : q.Answer → Consultation α}

theorem run_of_ok {a : q.Answer} (h : l.reply q = .ok a) :
    (ask q next).run l = (next a).run l := by
  rw [run, h]

theorem run_of_error {f : Failure} (h : l.reply q = .error f) :
    (ask q next).run l = .error (q.reported f) := by
  rw [run, h]

theorem asked_of_ok {a : q.Answer} (h : l.reply q = .ok a) :
    (ask q next).asked l = q :: (next a).asked l := by
  rw [asked, h]

theorem asked_of_error {f : Failure} (h : l.reply q = .error f) :
    (ask q next).asked l = [q] := by
  rw [asked, h]

end Answers

/-! ## 2. What holds of any consultation -/

/-- If something comes of a consultation, no look-up failed. -/
theorem fault?_of_run_ok {l : Lookups} {c : Consultation α} {a : α} (h : c.run l = .ok a) :
    ∀ q ∈ c.asked l, l.fault? q = none := by
  induction c with
  | done a =>
    intro q hq
    cases hq
  | ask q next ih =>
    rcases answer : l.reply q with f | b
    · rw [run_of_error answer] at h
      cases h
    · rw [run_of_ok answer] at h
      rw [asked_of_ok answer]
      intro q' hq'
      rcases List.mem_cons.1 hq' with rfl | hq'
      · exact Lookups.fault?_of_ok answer
      · exact ih b h q' hq'

/-- If a consultation fails, it does so at its last look-up, the first one that fails. -/
theorem last_of_run_error {l : Lookups} {c : Consultation α} {f : Failure}
    (h : c.run l = .error f) :
    ∃ before q g, c.asked l = before ++ [q] ∧ (∀ q' ∈ before, l.fault? q' = none) ∧
      l.fault? q = some g ∧ f = q.reported g := by
  induction c with
  | done a => cases h
  | ask q next ih =>
    rcases answer : l.reply q with g | b
    · rw [run_of_error answer] at h
      cases h
      exact ⟨[], q, g, asked_of_error answer, by simp, Lookups.fault?_of_error answer, rfl⟩
    · rw [run_of_ok answer] at h
      obtain ⟨before, q', g, made, fine, failed, reported⟩ := ih b h
      refine ⟨q :: before, q', g, ?_, ?_, failed, reported⟩
      · rw [asked_of_ok answer, made, List.cons_append]
      · intro x hx
        rcases List.mem_cons.1 hx with rfl | hx
        · exact Lookups.fault?_of_ok answer
        · exact fine x hx

/-- A consultation depends on the look-ups that it makes, and on nothing else. -/
theorem run_congr {l l' : Lookups} {c : Consultation α}
    (same : ∀ q ∈ c.asked l, l'.reply q = l.reply q) : c.run l' = c.run l := by
  induction c with
  | done a => rfl
  | ask q next ih =>
    rcases answer : l.reply q with f | a
    · have answer' : l'.reply q = .error f := by
        rw [same q (by rw [asked_of_error answer]; exact List.mem_cons_self ..), answer]
      rw [run_of_error answer, run_of_error answer']
    · rw [asked_of_ok answer] at same
      have answer' : l'.reply q = .ok a := by
        rw [same q (List.mem_cons_self ..), answer]
      rw [run_of_ok answer, run_of_ok answer']
      exact ih a fun q' hq' => same q' (List.mem_cons_of_mem _ hq')

/-! ## 3. The consultation of a decision -/

def entries (next : List AclEntry → Consultation α) : List ObjectId → Consultation α
  | [] => next []
  | k :: ks => ask (.entry k) fun (e : AclEntry) => entries (fun es => next (e :: es)) ks

def onParent (p : Permission) (holder : Party) (found : List AclEntry)
    (settled : Grant → Consultation α) (unsettled : Option Resource → Consultation α)
    (parent : Resource) : Consultation α :=
  match grantAmong? found parent.id p with
  | some e => settled ⟨holder.id, e.id, parent.id, .parent⟩
  | none => unsettled (some parent)

/-- One holder is considered: its grants on the target, then those on the parent, which is
    looked up unless it is known. -/
def ofHolder (p : Permission) (r : Resource) (known : Option Resource) (holder : Party)
    (settled : Grant → Consultation α) (unsettled : Option Resource → Consultation α) :
    Consultation α :=
  entries (fun found =>
    match grantAmong? found r.id p with
    | some e => settled ⟨holder.id, e.id, r.id, .direct⟩
    | none =>
      match r.parentId, known with
      | none, _ => unsettled known
      | some _, some parent => onParent p holder found settled unsettled parent
      | some parentId, none =>
        ask (.resource parentId) (onParent p holder found settled unsettled))
    holder.info.entryIds

def ofHolders (p : Permission) (r : Resource) :
    Option Resource → Party → List ObjectId → Consultation Decision
  | known, holder, [] =>
    ofHolder p r known holder (fun g => done (.granted p g)) fun _ => done (.denied p)
  | known, holder, k :: ks =>
    ofHolder p r known holder (fun g => done (.granted p g)) fun known =>
      ask (.party k) fun (g : Party) => ofHolders p r known g ks

/-- The consultation of a decision. -/
def decision (login : UserId) (p : Permission) (id : ObjectId) : Consultation Decision :=
  ask (.user login) fun (u : User) =>
    if u.info.id = id then done (.ownAccount p)
    else ask (.resource id) fun (r : Resource) => ofHolders p r none (.user u) u.groupIds

end Consultation

/-! ## 4. The order of consultation -/

def Party.inquiries (holder : Party) : List Inquiry := holder.info.entryIds.map .entry

def Resource.inquiries (r : Resource) : List Inquiry := r.parentId.toList.map .resource

/-- The parent of a resource, unless it is known already. -/
def Resource.inquiriesBeside (r : Resource) : Option Resource → List Inquiry
  | some _ => []
  | none => r.inquiries

namespace Lookups

def groupInquiries (l : Lookups) (k : ObjectId) : List Inquiry :=
  .party k :: match l.party k with
    | .ok g => g.inquiries
    | .error _ => []

def walk (l : Lookups) (u : User) (r : Resource) (groups : List ObjectId) : List Inquiry :=
  (Party.user u).inquiries ++ r.inquiries ++ groups.flatMap l.groupInquiries

/-- The order of consultation: the user, the target, and the walk over all groups of the
    user. -/
def order (l : Lookups) (login : UserId) (id : ObjectId) : List Inquiry :=
  .user login :: match l.user login with
    | .error _ => []
    | .ok u =>
      .resource id :: match l.resource id with
        | .error _ => []
        | .ok r => l.walk u r u.groupIds

/-- From a holder the walk comes over some groups to another holder: no holder before it has
    a grant that counts. -/
inductive Visits (l : Lookups) (p : Permission) (r : Resource) :
    Party → List ObjectId → Party → Prop
  | here (holder : Party) : Visits l p r holder [] holder
  | on {holder g last : Party} {k : ObjectId} {ks : List ObjectId}
      (nothing : l.grantOf p r holder = .ok none) (found : l.party k = .ok g)
      (later : Visits l p r g ks last) : Visits l p r holder (k :: ks) last

/-- How the consultation ends at the last holder that the walk comes to, with some groups
    left: what the answer is and what was asked, where `made` is all there is to ask up to
    this holder. -/
inductive Ends (l : Lookups) (p : Permission) (r : Resource) (last : Party)
    (made : List Inquiry) : List ObjectId → Except Failure Decision → List Inquiry → Prop
  | stuck {groups : List ObjectId} {f : Failure} {asked : List Inquiry}
      (failed : l.grantOf p r last = .error f) (part : asked <+: made) :
      Ends l p r last made groups (.error f) asked
  | settled {groups : List ObjectId} {g : Grant} {asked : List Inquiry}
      (grants : l.grantOf p r last = .ok (some g)) (part : asked <+: made) :
      Ends l p r last made groups (.ok (.granted p g)) asked
  | lost {k : ObjectId} {groups : List ObjectId} {f : Failure}
      (nothing : l.grantOf p r last = .ok none) (failed : l.party k = .error f) :
      Ends l p r last made (k :: groups) (.error f) (made ++ [.party k])
  | denied (nothing : l.grantOf p r last = .ok none) :
      Ends l p r last made [] (.ok (.denied p)) made

/-- The consultation about a holder and some groups ends at one of them.  Here `made` is all
    there is to ask about the first holder. -/
def Concludes (l : Lookups) (p : Permission) (r : Resource) (holder : Party)
    (made : List Inquiry) (groups : List ObjectId) (answer : Except Failure Decision)
    (asked : List Inquiry) : Prop :=
  ∃ passed rest last, groups = passed ++ rest ∧ l.Visits p r holder passed last ∧
    l.Ends p r last (made ++ passed.flatMap l.groupInquiries) rest answer asked

theorem Ends.concludes {l : Lookups} {p : Permission} {r : Resource} {holder : Party}
    {made asked : List Inquiry} {groups : List ObjectId} {answer : Except Failure Decision}
    (h : l.Ends p r holder made groups answer asked) :
    l.Concludes p r holder made groups answer asked := by
  refine ⟨[], groups, holder, rfl, .here holder, ?_⟩
  rw [List.flatMap_nil, List.append_nil]
  exact h

theorem Ends.after {l : Lookups} {p : Permission} {r : Resource} {last : Party}
    {made asked : List Inquiry} {groups : List ObjectId} {answer : Except Failure Decision}
    (h : l.Ends p r last made groups answer asked) (before : List Inquiry) :
    l.Ends p r last (before ++ made) groups answer (before ++ asked) := by
  cases h with
  | stuck failed part => exact .stuck failed ((List.prefix_append_right_inj _).2 part)
  | settled grants part => exact .settled grants ((List.prefix_append_right_inj _).2 part)
  | lost nothing failed =>
    rw [← List.append_assoc]
    exact .lost nothing failed
  | denied nothing => exact .denied nothing

end Lookups

/-! ## 5. Where a consultation ends -/

namespace Consultation

variable {α : Type} {l : Lookups} {p : Permission} {r : Resource}

theorem entries_cases (next : List AclEntry → Consultation α) (ids : List ObjectId) :
    (∃ f, ids.mapM l.entry = .error f ∧ (entries next ids).run l = .error f ∧
        (entries next ids).asked l <+: ids.map .entry) ∨
      ∃ found, ids.mapM l.entry = .ok found ∧
        (entries next ids).run l = (next found).run l ∧
        (entries next ids).asked l = ids.map .entry ++ (next found).asked l := by
  induction ids generalizing next with
  | nil => exact Or.inr ⟨[], rfl, rfl, rfl⟩
  | cons k ids ih =>
    rw [List.mapM_cons]
    rcases answer : l.entry k with f | e
    · have answer' : l.reply (.entry k) = .error f := answer
      refine Or.inl ⟨f, rfl, run_of_error answer', ?_⟩
      rw [entries, asked_of_error answer']
      exact ⟨ids.map .entry, rfl⟩
    · have answer' : l.reply (.entry k) = .ok e := answer
      rw [entries, run_of_ok answer', asked_of_ok answer']
      rcases ih fun es => next (e :: es) with ⟨f, failed, run, made⟩ | ⟨found, all, run, made⟩
      · refine Or.inl ⟨f, ?_, run, List.cons_prefix_cons.2 ⟨rfl, made⟩⟩
        rw [failed]
        rfl
      · refine Or.inr ⟨e :: found, ?_, run, congrArg (Inquiry.entry k :: ·) made⟩
        rw [all]
        rfl

/-- The parent is at hand: it was looked up, or there is none. -/
inductive AtHand (l : Lookups) (r : Resource) : Option Resource → Prop
  | root (top : r.parentId = none) : AtHand l r none
  | found {parentId : ObjectId} {parent : Resource} (above : r.parentId = some parentId)
      (answer : l.resource parentId = .ok parent) : AtHand l r (some parent)

theorem AtHand.nothing_left {known : Option Resource} (h : AtHand l r known) :
    r.inquiriesBeside known = [] := by
  cases h with
  | root top => simp [Resource.inquiriesBeside, Resource.inquiries, top]
  | found => rfl

section Found

variable {holder : Party} {found : List AclEntry}

theorem grantOf_of_found (all : holder.info.entryIds.mapM l.entry = .ok found) :
    l.grantOf p r holder =
      match grantAmong? found r.id p with
      | some e => .ok (some ⟨holder.id, e.id, r.id, .direct⟩)
      | none =>
        match r.parentId with
        | none => .ok none
        | some parentId =>
          l.resource parentId >>= fun parent =>
            .ok ((grantAmong? found parent.id p).map fun e =>
              ⟨holder.id, e.id, parent.id, .parent⟩) := by
  rw [Lookups.grantOf, all]
  rfl

theorem grantOf_direct (all : holder.info.entryIds.mapM l.entry = .ok found) {e : AclEntry}
    (direct : grantAmong? found r.id p = some e) :
    l.grantOf p r holder = .ok (some ⟨holder.id, e.id, r.id, .direct⟩) := by
  rw [grantOf_of_found all, direct]

theorem grantOf_root (all : holder.info.entryIds.mapM l.entry = .ok found)
    (direct : grantAmong? found r.id p = none) (top : r.parentId = none) :
    l.grantOf p r holder = .ok none := by
  rw [grantOf_of_found all, direct]
  simp only [top]

theorem grantOf_parent (all : holder.info.entryIds.mapM l.entry = .ok found)
    (direct : grantAmong? found r.id p = none) {parentId : ObjectId} {parent : Resource}
    (above : r.parentId = some parentId) (answer : l.resource parentId = .ok parent) :
    l.grantOf p r holder =
      .ok ((grantAmong? found parent.id p).map fun e =>
        ⟨holder.id, e.id, parent.id, .parent⟩) := by
  rw [grantOf_of_found all, direct]
  simp only [above, answer]
  rfl

theorem grantOf_parent_error (all : holder.info.entryIds.mapM l.entry = .ok found)
    (direct : grantAmong? found r.id p = none) {parentId : ObjectId} {f : Failure}
    (above : r.parentId = some parentId) (answer : l.resource parentId = .error f) :
    l.grantOf p r holder = .error f := by
  rw [grantOf_of_found all, direct]
  simp only [above, answer]
  rfl

theorem onParent_cases (all : holder.info.entryIds.mapM l.entry = .ok found)
    (direct : grantAmong? found r.id p = none) {parentId : ObjectId} {parent : Resource}
    (above : r.parentId = some parentId) (answer : l.resource parentId = .ok parent)
    (settled : Grant → Consultation α) (unsettled : Option Resource → Consultation α) :
    (∃ g, l.grantOf p r holder = .ok (some g) ∧
        onParent p holder found settled unsettled parent = settled g) ∨
      l.grantOf p r holder = .ok none ∧ AtHand l r (some parent) ∧
        onParent p holder found settled unsettled parent = unsettled (some parent) := by
  rw [grantOf_parent all direct above answer]
  unfold onParent
  rcases grantAmong? found parent.id p with _ | e
  · exact Or.inr ⟨rfl, .found above answer, rfl⟩
  · exact Or.inl ⟨_, rfl, rfl⟩

end Found

/-- What becomes of the consultation about a holder: it fails as the decision does, it ends
    with the grant that the decision finds, or nothing is found and the parent is at hand. -/
theorem ofHolder_cases {known : Option Resource} (ready : known = none ∨ AtHand l r known)
    (holder : Party) (settled : Grant → Consultation α)
    (unsettled : Option Resource → Consultation α) :
    (∃ f, l.grantOf p r holder = .error f ∧
        (ofHolder p r known holder settled unsettled).run l = .error f ∧
        (ofHolder p r known holder settled unsettled).asked l <+:
          holder.inquiries ++ r.inquiriesBeside known) ∨
      (∃ g made, l.grantOf p r holder = .ok (some g) ∧
        (ofHolder p r known holder settled unsettled).run l = (settled g).run l ∧
        (ofHolder p r known holder settled unsettled).asked l = made ++ (settled g).asked l ∧
        made <+: holder.inquiries ++ r.inquiriesBeside known) ∨
      ∃ known', l.grantOf p r holder = .ok none ∧ AtHand l r known' ∧
        (ofHolder p r known holder settled unsettled).run l = (unsettled known').run l ∧
        (ofHolder p r known holder settled unsettled).asked l =
          holder.inquiries ++ r.inquiriesBeside known ++ (unsettled known').asked l := by
  unfold ofHolder
  rcases entries_cases (l := l) _ holder.info.entryIds with
    ⟨f, failed, run, made⟩ | ⟨found, all, run, made⟩
  · refine Or.inl ⟨f, ?_, run, made.trans (List.prefix_append _ _)⟩
    rw [Lookups.grantOf, failed]
    rfl
  rw [run, made]
  rcases direct : grantAmong? found r.id p with _ | e
  · -- nothing on the target: the parent is next, whether it was looked up before or not
    rcases ready with rfl | atHand
    · rcases above : r.parentId with _ | parentId
      · refine Or.inr (Or.inr ⟨none, grantOf_root all direct above, .root above, rfl, ?_⟩)
        simp [Resource.inquiriesBeside, Resource.inquiries, above, Party.inquiries]
      · have parentInquiry : r.inquiriesBeside none = [.resource parentId] := by
          simp [Resource.inquiriesBeside, Resource.inquiries, above]
        rw [parentInquiry]
        rcases answer : l.resource parentId with f | parent
        · have answer' : l.reply (.resource parentId) = .error f := answer
          refine Or.inl ⟨f, grantOf_parent_error all direct above answer,
            run_of_error answer', ?_⟩
          simp only
          rw [asked_of_error answer']
          exact List.prefix_refl _
        · have answer' : l.reply (.resource parentId) = .ok parent := answer
          simp only
          rw [run_of_ok answer', asked_of_ok answer']
          rcases onParent_cases all direct above answer settled unsettled with
            ⟨g, grants, same⟩ | ⟨nothing, seen, same⟩
          · rw [same]
            refine Or.inr (Or.inl
              ⟨g, holder.inquiries ++ [.resource parentId], grants, rfl, ?_, ?_⟩)
            · simp [Party.inquiries]
            · exact List.prefix_refl _
          · rw [same]
            refine Or.inr (Or.inr ⟨some parent, nothing, seen, rfl, ?_⟩)
            simp [Party.inquiries]
    · rw [atHand.nothing_left, List.append_nil]
      cases atHand with
      | root top =>
        refine Or.inr (Or.inr ⟨none, grantOf_root all direct top, .root top, ?_, ?_⟩)
        · simp only [top]
        · simp only [top, Party.inquiries]
      | @found parentId parent above answer =>
        simp only [above]
        rcases onParent_cases all direct above answer settled unsettled with
          ⟨g, grants, same⟩ | ⟨nothing, seen, same⟩
        · rw [same]
          exact Or.inr (Or.inl ⟨g, holder.inquiries, grants, rfl, rfl, List.prefix_refl _⟩)
        · rw [same]
          exact Or.inr (Or.inr ⟨some parent, nothing, seen, rfl, rfl⟩)
  · refine Or.inr (Or.inl ⟨_, holder.inquiries, grantOf_direct all direct, rfl, rfl, ?_⟩)
    exact List.prefix_append _ _

theorem ofHolder_ends {known : Option Resource} (ready : known = none ∨ AtHand l r known)
    (holder : Party) (groups : List ObjectId) (unsettled : Option Resource → Consultation Decision)
    {c : Consultation Decision}
    (hc : c = ofHolder p r known holder (fun g => done (Decision.granted p g)) unsettled) :
    l.Ends p r holder (holder.inquiries ++ r.inquiriesBeside known) groups (c.run l) (c.asked l) ∨
      ∃ known', l.grantOf p r holder = .ok none ∧ AtHand l r known' ∧
        c.run l = (unsettled known').run l ∧
        c.asked l =
          holder.inquiries ++ r.inquiriesBeside known ++ (unsettled known').asked l := by
  subst hc
  rcases ofHolder_cases (p := p) ready holder (fun g => done (Decision.granted p g)) unsettled with
    ⟨f, failed, run, asked⟩ | ⟨g, made, grants, run, asked, part⟩ | open_
  · rw [run]
    exact Or.inl (.stuck failed asked)
  · rw [run, asked]
    exact Or.inl (.settled grants ((List.append_nil made).symm ▸ part))
  · exact Or.inr open_

/-- The consultation about a row of holders ends at one of them. -/
theorem ofHolders_concludes {known : Option Resource} (ready : known = none ∨ AtHand l r known)
    (holder : Party) (groups : List ObjectId) :
    l.Concludes p r holder (holder.inquiries ++ r.inquiriesBeside known) groups
      ((ofHolders p r known holder groups).run l)
      ((ofHolders p r known holder groups).asked l) := by
  induction groups generalizing known holder with
  | nil =>
    rw [ofHolders]
    rcases ofHolder_ends (p := p) ready holder [] _ rfl with ends | ⟨_, nothing, _, run, asked⟩
    · exact ends.concludes
    · rw [run, asked, asked_done, List.append_nil]
      exact (Lookups.Ends.denied nothing).concludes
  | cons k groups ih =>
    rw [ofHolders]
    rcases ofHolder_ends (p := p) ready holder (k :: groups) _ rfl with
      ends | ⟨known', nothing, atHand, run, asked⟩
    · exact ends.concludes
    · rw [run, asked]
      rcases answer : l.party k with f | g
      · have answer' : l.reply (.party k) = .error f := answer
        rw [run_of_error answer', asked_of_error answer']
        exact (Lookups.Ends.lost nothing answer).concludes
      · -- nothing so far: the group is the next holder, and the parent is at hand
        have answer' : l.reply (.party k) = .ok g := answer
        rw [run_of_ok answer', asked_of_ok answer']
        obtain ⟨passed, rest, last, split, visits, ends⟩ := ih (Or.inr atHand) g
        refine ⟨k :: passed, rest, last, congrArg (k :: ·) split, .on nothing answer visits, ?_⟩
        have ends := ends.after (holder.inquiries ++ r.inquiriesBeside known ++ [.party k])
        simpa [atHand.nothing_left, Lookups.groupInquiries, answer] using ends

/-! ## 6. The consultation gives the decision -/

theorem firstGrant_of_visits {holder last : Party} {passed : List ObjectId}
    (h : l.Visits p r holder passed last) (rest : List ObjectId) :
    l.firstGrant p r holder (passed ++ rest) = l.firstGrant p r last rest := by
  induction h with
  | here holder => rfl
  | on nothing found _ ih =>
    rw [List.cons_append, Lookups.firstGrant, nothing, ← ih]
    show (l.party _ >>= fun g => l.firstGrant p r g _) = _
    rw [found]
    rfl

def answerOf (p : Permission) : Option Grant → Decision
  | some g => .granted p g
  | none => .denied p

theorem answer_of_ends {last : Party} {made asked : List Inquiry} {rest : List ObjectId}
    {answer : Except Failure Decision} (h : l.Ends p r last made rest answer asked) :
    answer = (l.firstGrant p r last rest).map (answerOf p) := by
  cases h with
  | stuck failed =>
    cases rest with
    | nil => rw [Lookups.firstGrant, failed]; rfl
    | cons k rest => rw [Lookups.firstGrant, failed]; rfl
  | settled grants =>
    cases rest with
    | nil => rw [Lookups.firstGrant, grants]; rfl
    | cons k rest => rw [Lookups.firstGrant, grants]; rfl
  | @lost k rest f nothing failed =>
    rw [Lookups.firstGrant, nothing]
    show _ = (l.party k >>= fun g => l.firstGrant p r g rest).map _
    rw [failed]
    rfl
  | denied nothing => rw [Lookups.firstGrant, nothing]; rfl

/-- Where the consultation of a decision ends: at the user, at the target, or at a holder. -/
theorem decision_cases (l : Lookups) (login : UserId) (p : Permission) (id : ObjectId) :
    (∃ f, l.user login = .error f ∧
        (decision login p id).run l = .error ((Inquiry.user login).reported f) ∧
        (decision login p id).asked l = [.user login]) ∨
      ∃ u, l.user login = .ok u ∧
        ((u.info.id = id ∧ (decision login p id).run l = .ok (.ownAccount p) ∧
            (decision login p id).asked l = [.user login]) ∨
          u.info.id ≠ id ∧
            ((∃ f, l.resource id = .error f ∧ (decision login p id).run l = .error f ∧
                (decision login p id).asked l = [.user login, .resource id]) ∨
              ∃ r passed rest last, l.resource id = .ok r ∧ u.groupIds = passed ++ rest ∧
                l.Visits p r (.user u) passed last ∧
                l.Ends p r last ([.user login, .resource id] ++ l.walk u r passed) rest
                  ((decision login p id).run l) ((decision login p id).asked l))) := by
  rcases answer : l.user login with f | u
  · have answer' : l.reply (.user login) = .error f := answer
    exact Or.inl ⟨f, rfl, run_of_error answer', asked_of_error answer'⟩
  · have answer' : l.reply (.user login) = .ok u := answer
    refine Or.inr ⟨u, rfl, ?_⟩
    rw [decision, run_of_ok answer', asked_of_ok answer']
    by_cases own : u.info.id = id
    · rw [if_pos own]
      exact Or.inl ⟨own, rfl, rfl⟩
    · rw [if_neg own]
      refine Or.inr ⟨own, ?_⟩
      rcases target : l.resource id with f | r
      · have target' : l.reply (.resource id) = .error f := target
        rw [run_of_error target', asked_of_error target']
        exact Or.inl ⟨f, rfl, rfl, rfl⟩
      · have target' : l.reply (.resource id) = .ok r := target
        rw [run_of_ok target', asked_of_ok target']
        obtain ⟨passed, rest, last, split, visits, ends⟩ :=
          ofHolders_concludes (l := l) (p := p) (r := r) (Or.inl rfl) (.user u) u.groupIds
        exact Or.inr ⟨r, passed, rest, last, rfl, split, visits,
          ends.after [.user login, .resource id]⟩

/-- The consultation of a decision gives the decision. -/
theorem run_decision (l : Lookups) (login : UserId) (p : Permission) (id : ObjectId) :
    (decision login p id).run l = l.decisionOn login p id := by
  unfold Lookups.decisionOn Lookups.account
  rcases decision_cases l login p id with
    ⟨f, answer, run, _⟩ | ⟨u, answer, ⟨own, run, _⟩ | ⟨other, ⟨f, target, run, _⟩ | away⟩⟩
  · rw [run, answer]
    rfl
  · rw [run, answer]
    exact (if_pos own).symm
  · rw [run, answer]
    show _ = (if u.info.id = id then _ else _)
    rw [if_neg other]
    show _ = (l.resource id >>= _)
    rw [target]
    rfl
  · obtain ⟨r, passed, rest, last, target, split, visits, ends⟩ := away
    rw [answer, answer_of_ends ends, ← firstGrant_of_visits visits, ← split]
    show _ = (if u.info.id = id then _ else _)
    rw [if_neg other]
    show _ = (l.resource id >>= _)
    rw [target]
    show _ = (l.firstGrant p r (.user u) u.groupIds >>= _)
    rcases l.firstGrant p r (.user u) u.groupIds with f | _ | g <;> rfl

end Consultation

end AccessControl
