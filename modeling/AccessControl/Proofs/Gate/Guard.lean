/-
  AccessControl/Proofs/Gate/Guard.lean
  ====================================
  **The guard of a handler agrees with the decision.**

  A guard first asks for the decision.  Only for a denial it looks the resource up, to name it
  in the failure.  The resource was looked up for the decision already, unless nothing was
  asked for, but whoever answers may answer differently by now.  So the gate is written out as
  consultations, which can be run on sources whose answers change from one look-up to the next.

  A row of bits that asks for nothing, or for more than one thing, is answered without any
  look-up (`authorization_cases`).  So a failure for the row alone and a failure of a look-up
  are never mistaken for each other.

  ## Main definitions

  * `Source`, `Consultation.consult`, `Consultation.made`: look-ups with changing answers;
  * `Consultation.authorization`, `Consultation.guarding`: what a gate looks up;
  * `Mask.Malformed`: the rows of bits that are refused.

  ## Main statements

  * `authorize_eq`, `guard_eq`: a gate is its consultations, on its own look-ups;
  * `guarding_answer`: what the guard makes of the decision;
  * `guard_agrees`: the guard and the decision, for all gates.
-/
import AccessControl.Gate.Basic
import AccessControl.Proofs.Access.Unreliable

namespace AccessControl

/-! ## 1. Sources of answers -/

/-- A source of answers, which may change from one look-up to the next. -/
abbrev Source (σ : Type) := (q : Inquiry) → σ → Except Failure q.Answer × σ

def Lookups.source (l : Lookups) : Source Unit := fun q _ => (l.reply q, ())

namespace Consultation

variable {α β σ : Type} {b : Source σ} {x : σ}

/-- What a consultation comes to on a source, and what becomes of the source. -/
def consult (b : Source σ) : Consultation α → σ → Except Failure α × σ
  | done a, x => (.ok a, x)
  | ask q next, x =>
    match b q x with
    | (.ok a, y) => (next a).consult b y
    | (.error f, y) => (.error (q.reported f), y)

/-- The look-ups that are made, and what the source was like at each of them. -/
def made (b : Source σ) : Consultation α → σ → List (Inquiry × σ)
  | done _, _ => []
  | ask q next, x =>
    (q, x) :: match b q x with
      | (.ok a, y) => (next a).made b y
      | (.error _, _) => []

theorem consult_source (l : Lookups) (c : Consultation α) :
    c.consult l.source () = (c.run l, ()) := by
  induction c with
  | done a => rfl
  | ask q next ih =>
    rcases answer : l.reply q with f | a
    · simp only [consult, run, Lookups.source, answer]
    · simp only [consult, run, Lookups.source, answer]
      exact ih a

theorem fails_of_consult {c : Consultation α} {f : Failure}
    (failed : (c.consult b x).1 = .error f) :
    ∃ q y h, (q, y) ∈ c.made b x ∧ (b q y).1 = .error h ∧ f = q.reported h := by
  induction c generalizing x with
  | done a => cases failed
  | ask q next ih =>
    rcases answer : b q x with ⟨h | a, y⟩
    · simp only [consult, answer] at failed
      cases failed
      exact ⟨q, x, h, by rw [made]; exact List.mem_cons_self .., by rw [answer], rfl⟩
    · simp only [consult, answer] at failed
      obtain ⟨q', y', h, asked, fault, reported⟩ := ih a failed
      refine ⟨q', y', h, ?_, fault, reported⟩
      simp only [made, answer]
      exact List.mem_cons_of_mem _ asked

def andThen (c : Consultation α) (k : α → Consultation β) : Consultation β :=
  match c with
  | done a => k a
  | ask q next => ask q fun a => (next a).andThen k

theorem consult_andThen (c : Consultation α) (k : α → Consultation β) :
    (c.andThen k).consult b x =
      match c.consult b x with
      | (.ok a, y) => (k a).consult b y
      | (.error f, y) => (.error f, y) := by
  induction c generalizing x with
  | done a => rfl
  | ask q next ih =>
    rcases answer : b q x with ⟨f | a, y⟩
    · simp only [andThen, consult, answer]
    · simp only [andThen, consult, answer]
      exact ih a

def answer (b : Source σ) (c : Consultation (Except Failure α)) (x : σ) : Except Failure α × σ :=
  match c.consult b x with
  | (.ok a, y) => (a, y)
  | (.error f, y) => (.error f, y)

/-- A consultation that fails on its own account is answered; one that cannot be finished is
    not. -/
theorem answer_andThen (c : Consultation (Except Failure α))
    (k : Except Failure α → Consultation (Except Failure β))
    (passes : ∀ f, k (.error f) = done (.error f)) :
    (c.andThen k).answer b x =
      match c.answer b x with
      | (.ok a, y) => (k (.ok a)).answer b y
      | (.error f, y) => (.error f, y) := by
  unfold answer
  rw [consult_andThen]
  rcases c.consult b x with ⟨f | (f | a), y⟩
  · rfl
  · simp only [passes, consult]
  · rfl

end Consultation

/-! ## 2. Rows of bits -/

/-- A row of bits is no mask, or asks for more than one thing. -/
def Mask.Malformed (bits : List Bool) : Prop := bits.length ≠ 5 ∨ 2 ≤ bits.count true

theorem Mask.length_permissions (m : Mask) : m.permissions.length = m.count := by
  have spelled : m.bits = Permission.all.map m.contains := rfl
  rw [Mask.count, spelled, List.count, List.countP_map, Mask.permissions,
    ← List.countP_eq_length_filter]
  congr 1
  funext p
  simp

theorem Mask.single_of_count {m : Mask} (one : m.count = 1) : ∃ p, m = .single p := by
  rw [← m.length_permissions] at one
  obtain ⟨p, alone⟩ := List.length_eq_one_iff.1 one
  exact ⟨p, Mask.singleAction_eq_ok.1 (by rw [Mask.singleAction, alone])⟩

theorem Mask.count_single (p : Permission) : (Mask.single p).count = 1 := by cases p <;> rfl

theorem Mask.singleAction_of_count {m : Mask} (other : m.count ≠ 1) :
    m.singleAction = .error (.notSingle m.count) := by
  unfold Mask.singleAction
  split
  · next p alone =>
    rw [← m.length_permissions, alone] at other
    exact absurd rfl other
  · rfl

namespace Consultation

/-! ## 3. What a gate looks up -/

/-- Whether a user may do the one thing that a row of bits asks for. -/
def authorization (login : UserId) (bits : List Bool) (id : ObjectId) :
    Consultation (Except Failure Bool) :=
  match Mask.ofBits bits with
  | .error fault => done (.error (Failure.invalidMask fault.message))
  | .ok mask =>
    match mask.singleAction with
    | .ok p => (decision login p id).andThen fun d => done (.ok d.allow)
    | .error (.notSingle 0) => done (.ok Decision.noAction.allow)
    | .error fault => done (.error (Failure.invalidMask fault.message))

/-- The guard of a handler, which names the resource of a denial. -/
def guarding (enabled : Bool) (login : UserId) (bits : List Bool) (id : ObjectId)
    (action : String) : Consultation (Except Failure Unit) :=
  if enabled then
    (authorization login bits id).andThen fun
      | .error f => done (.error f)
      | .ok true => done (.ok ())
      | .ok false => ask (.resource id) fun (r : Resource) =>
        done (.error (Failure.forbiddenAction action r.name id.value))
  else done (.ok ())

/-- Only a row that asks for one thing needs look-ups. -/
theorem authorization_cases (login : UserId) (bits : List Bool) (id : ObjectId) :
    (Mask.Malformed bits ∧ ∃ fault : MaskError,
        authorization login bits id = done (.error (Failure.invalidMask fault.message))) ∨
      (bits.length = 5 ∧ bits.count true = 0 ∧ authorization login bits id = done (.ok false)) ∨
      ∃ p, bits = (Mask.single p).bits ∧
        authorization login bits id =
          (decision login p id).andThen fun d => done (.ok d.allow) := by
  unfold authorization
  rcases wide : Mask.ofBits bits with fault | mask
  · exact Or.inl ⟨Or.inl (Mask.ofBits_eq_error wide).2, fault, rfl⟩
  · obtain rfl := Mask.ofBits_eq_ok wide
    have count : mask.bits.count true = mask.count := rfl
    by_cases one : mask.count = 1
    · obtain ⟨p, rfl⟩ := Mask.single_of_count one
      refine Or.inr (Or.inr ⟨p, rfl, ?_⟩)
      simp only [Mask.singleAction_single]
    · simp only [Mask.singleAction_of_count one]
      rcases counted : mask.count with _ | _ | n
      · exact Or.inr (Or.inl ⟨rfl, count.trans counted, rfl⟩)
      · exact absurd counted one
      · refine Or.inl ⟨Or.inr ?_, _, rfl⟩
        rw [count, counted]
        exact Nat.le_add_left 2 n

theorem not_malformed_single (p : Permission) : ¬Mask.Malformed (Mask.single p).bits := by
  rintro (narrow | many)
  · exact narrow rfl
  · have count : (Mask.single p).bits.count true = 1 := Mask.count_single p
    rw [count] at many
    cases many with
    | step more => cases more

/-! ## 4. Answers -/

section Answers

variable {σ : Type} {b : Source σ} {x : σ} {login : UserId} {bits : List Bool} {id : ObjectId}
  {action : String}

/-- What the guard makes of the decision. -/
theorem guarding_answer :
    (guarding true login bits id action).answer b x =
      match (authorization login bits id).answer b x with
      | (.ok true, y) => (.ok (), y)
      | (.ok false, y) =>
        match b (.resource id) y with
        | (.ok r, z) => (.error (Failure.forbiddenAction action r.name id.value), z)
        | (.error f, z) => (.error f, z)
      | (.error f, y) => (.error f, y) := by
  unfold guarding
  rw [if_pos rfl, answer_andThen]
  · rcases (authorization login bits id).answer b x with ⟨f | (_ | _), y⟩
    · rfl
    · simp only [answer, consult]
      rcases b (.resource id) y with ⟨f | r, z⟩
      · rfl
      · rfl
    · rfl
  · intro f
    rfl

theorem guarding_eq_ok :
    ((guarding true login bits id action).answer b x).1 = .ok () ↔
      ((authorization login bits id).answer b x).1 = .ok true := by
  rw [guarding_answer]
  rcases (authorization login bits id).answer b x with ⟨f | (_ | _), y⟩
  · simp
  · rcases found : b (.resource id) y with ⟨f | r, z⟩
    · simp [found]
    · simp [found]
  · simp

theorem guarding_of_error {f : Failure}
    (failed : ((authorization login bits id).answer b x).1 = .error f) :
    ((guarding true login bits id action).answer b x).1 = .error f := by
  rw [guarding_answer]
  rcases answered : (authorization login bits id).answer b x with ⟨h | d, y⟩
  · rw [answered] at failed
    cases failed
    rfl
  · rw [answered] at failed
    cases failed

theorem guarding_of_denied
    (denied : ((authorization login bits id).answer b x).1 = .ok false) :
    ((guarding true login bits id action).answer b x).1 =
      match (b (.resource id) ((authorization login bits id).answer b x).2).1 with
      | .ok r => .error (Failure.forbiddenAction action r.name id.value)
      | .error f => .error f := by
  rw [guarding_answer]
  rcases answered : (authorization login bits id).answer b x with ⟨h | d, y⟩
  · rw [answered] at denied
    cases denied
  · rw [answered] at denied
    cases denied
    rcases found : b (.resource id) y with ⟨f | r, z⟩
    · simp only [found]
    · simp only [found]

/-- A failure for the row of bits is one without a look-up, and every other failure is that of
    a look-up. -/
theorem fails_of_answer {f : Failure}
    (failed : ((authorization login bits id).answer b x).1 = .error f) :
    Mask.Malformed bits ∨ ∃ q y h, (q, y) ∈ (authorization login bits id).made b x ∧
      (b q y).1 = .error h ∧ f = q.reported h := by
  rcases authorization_cases login bits id with
    ⟨malformed, -⟩ | ⟨-, -, nothing⟩ | ⟨p, -, one⟩
  · exact Or.inl malformed
  · rw [nothing] at failed
    cases failed
  · refine Or.inr (fails_of_consult ?_)
    revert failed
    rw [one, answer, consult_andThen]
    rcases (decision login p id).consult b x with ⟨h | d, y⟩
    · intro failed
      cases failed
      rfl
    · intro failed
      cases failed

theorem malformed_iff :
    Mask.Malformed bits ↔ ∃ f, ((authorization login bits id).answer b x).1 = .error f ∧
      f.code = Code.invalidActionMask ∧ (authorization login bits id).made b x = [] := by
  rcases authorization_cases login bits id with
    ⟨malformed, fault, refused⟩ | ⟨wide, none, nothing⟩ | ⟨p, rfl, one⟩
  · refine ⟨fun _ => ?_, fun _ => malformed⟩
    rw [refused]
    exact ⟨_, rfl, rfl, rfl⟩
  · constructor
    · rintro (narrow | many)
      · exact absurd wide narrow
      · rw [none] at many
        cases many
    · rintro ⟨f, failed, -⟩
      rw [nothing] at failed
      cases failed
  · refine ⟨fun malformed => absurd malformed (not_malformed_single p), ?_⟩
    -- whatever the failure is, the user was looked up for it
    rintro ⟨f, -, -, unasked⟩
    rw [one, decision, andThen, made] at unasked
    cases unasked

theorem nothing_asked (wide : bits.length = 5) (none : bits.count true = 0) :
    authorization login bits id = done (.ok false) := by
  rcases authorization_cases login bits id with
    ⟨narrow | many, -⟩ | ⟨-, -, nothing⟩ | ⟨p, rfl, -⟩
  · exact absurd wide narrow
  · rw [none] at many
    cases many
  · exact nothing
  · have count : (Mask.single p).bits.count true = 1 := Mask.count_single p
    rw [count] at none
    cases none

end Answers

end Consultation

/-! ## 5. Gates -/

open Consultation

/-- What a gate decides is what its consultation comes to. -/
theorem Gate.authorize_eq (g : Gate) (t : SessionToken) (bits : List Bool) (id : ObjectId)
    (s : Store) :
    g.authorize t bits id s =
      ((authorization t.userId bits id).answer (g.lookups s).source ()).1 := by
  unfold Gate.authorize authorization Consultation.answer
  rcases Mask.ofBits bits with fault | mask
  · rfl
  · simp only [Lookups.decision]
    rcases mask.singleAction with fault | p
    · rcases fault with _ | (_ | n) | _
      · rfl
      · rfl
      · rfl
      · rfl
    · simp only [consult_andThen, consult_source, run_decision]
      rcases (g.lookups s).decisionOn t.userId p id with f | d
      · rfl
      · rfl

theorem Gate.guard_eq (g : Gate) (t : SessionToken) (bits : List Bool) (id : ObjectId)
    (action : String) (s : Store) :
    g.guard t bits id action s =
      ((guarding g.enabled t.userId bits id action).answer (g.lookups s).source ()).1 := by
  rcases on : g.enabled
  · rw [Gate.guard_disabled on]
    rfl
  · rw [guarding_answer]
    unfold Gate.guard
    rw [on, Gate.authorize_eq]
    rcases (authorization t.userId bits id).answer (g.lookups s).source () with ⟨f | (_ | _), y⟩
    · rfl
    · show (g.lookups s).resource id >>= _ = _
      have asked : (g.lookups s).source (.resource id) y = ((g.lookups s).resource id, ()) := rfl
      simp only [asked]
      rcases (g.lookups s).resource id with f | r
      · rfl
      · rfl
    · rfl

/-- A look-up of a store fails only because something is not there. -/
theorem Store.reported_code {s : Store} {q : Inquiry} {f : Failure}
    (failed : s.lookups.reply q = .error f) :
    (q.reported f).code = Code.notFound ∨ (q.reported f).code = Code.identityUnresolved := by
  have noSuch {α : Type} (refusal : Refusal) {o : Option α}
      (h : (Store.found refusal o).mapError Refusal.failure = .error f) :
      f = refusal.failure := by
    cases o with
    | none =>
      cases h
      rfl
    | some a => cases h
  cases q with
  | user login =>
    obtain rfl := noSuch (.noUser login) failed
    exact Or.inr rfl
  | resource id =>
    obtain rfl := noSuch (.noResource id) failed
    exact Or.inl rfl
  | party id =>
    obtain rfl := noSuch (.noParty id) failed
    exact Or.inl rfl
  | entry id =>
    obtain rfl := noSuch (.noEntry id) failed
    exact Or.inl rfl

theorem Gate.resource_of_denied {g : Gate} {t : SessionToken} {bits : List Bool} {id : ObjectId}
    {s : Store} (one : bits.count true = 1) (denied : g.authorize t bits id s = .ok false) :
    ∃ r, (g.lookups s).resource id = .ok r := by
  rw [Gate.authorize_eq] at denied
  rcases authorization_cases t.userId bits id with
    ⟨-, fault, refused⟩ | ⟨-, none, -⟩ | ⟨p, -, asked⟩
  · rw [refused] at denied
    cases denied
  · rw [none] at one
    cases one
  · rw [asked, Consultation.answer, consult_andThen, consult_source] at denied
    rcases decided : (decision t.userId p id).run (g.lookups s) with f | d
    · rw [decided] at denied
      cases denied
    · rw [decided] at denied
      have refused : d.allow = false := Except.ok.inj denied
      obtain ⟨-, u, r, -, target, -⟩ := Lookups.denied_after_all decided refused
      exact ⟨r, target⟩

/-- Every gate looks up what its consultations tell, and decides the same whether or not its
    guard is switched off.  On every source, also one whose answers change, the guard admits
    what the decision allows, passes on every failure to decide, and turns a denial into a
    failure that names the action and the resource, unless the resource cannot be looked up any
    more.  A guard that is switched off admits everything.  A row of bits is refused without a
    look-up exactly if it has not five bits or asks for more than one thing, and every other
    failure to decide is that of a look-up; a row that asks for nothing is denied without one.
    On a store, only such rows are refused as invalid, and who is denied one thing always
    learns the name of the resource. -/
theorem guard_agrees (g : Gate) (t : SessionToken) (bits : List Bool) (id : ObjectId)
    (action : String) :
    (∀ s,
      g.authorize t bits id s =
        ((authorization t.userId bits id).answer (g.lookups s).source ()).1 ∧
      g.guard t bits id action s =
        ((guarding g.enabled t.userId bits id action).answer (g.lookups s).source ()).1 ∧
      ∀ e, ({ g with enabled := e } : Gate).authorize t bits id s = g.authorize t bits id s) ∧
    (∀ {σ : Type} (b : Source σ) (x : σ),
      let asked := authorization t.userId bits id
      let answer := asked.answer b x
      let guarded e := ((guarding e t.userId bits id action).answer b x).1
      (guarded true = .ok () ↔ answer.1 = .ok true) ∧
      (∀ f, answer.1 = .error f → guarded true = .error f) ∧
      (answer.1 = .ok false → guarded true =
        match (b (.resource id) answer.2).1 with
        | .ok r => .error (Failure.forbiddenAction action r.name id.value)
        | .error f => .error f) ∧
      guarded false = .ok () ∧
      (Mask.Malformed bits ↔ ∃ f, answer.1 = .error f ∧ f.code = Code.invalidActionMask ∧
        asked.made b x = []) ∧
      (∀ f, answer.1 = .error f → Mask.Malformed bits ∨
        ∃ q y h, (q, y) ∈ asked.made b x ∧ (b q y).1 = .error h ∧ f = q.reported h) ∧
      (bits.length = 5 → bits.count true = 0 →
        answer.1 = .ok false ∧ asked.made b x = [])) ∧
    ∀ s, g.lookups s = s.lookups →
      (Mask.Malformed bits ↔
        ∃ f, g.authorize t bits id s = .error f ∧ f.code = Code.invalidActionMask) ∧
      (bits.count true = 1 → g.authorize t bits id s = .ok false →
        ∃ r, s.resources.get? id = some r ∧ (g.enabled = true →
          g.guard t bits id action s =
            .error (Failure.forbiddenAction action r.name id.value))) := by
  refine ⟨fun s => ⟨g.authorize_eq t bits id s, g.guard_eq t bits id action s, fun _ => rfl⟩,
    ?_, ?_⟩
  · intro σ b x asked answer guarded
    refine ⟨guarding_eq_ok, fun f => guarding_of_error, guarding_of_denied, rfl, malformed_iff,
      fun f => fails_of_answer, fun wide none => ?_⟩
    have nothing : asked = done (.ok false) := nothing_asked wide none
    simp only [answer, nothing]
    exact ⟨rfl, rfl⟩
  · intro s direct
    refine ⟨⟨fun malformed => ?_, ?_⟩, fun one denied => ?_⟩
    · have refused : ∃ f, ((authorization t.userId bits id).answer (g.lookups s).source ()).1 =
          .error f ∧ f.code = Code.invalidActionMask ∧ _ := malformed_iff.1 malformed
      obtain ⟨f, failed, code, -⟩ := refused
      exact ⟨f, (g.authorize_eq t bits id s).trans failed, code⟩
    · rintro ⟨f, failed, code⟩
      rw [Gate.authorize_eq] at failed
      rcases fails_of_answer failed with malformed | ⟨q, _, h, -, fault, rfl⟩
      · exact malformed
      · -- no look-up of a store fails with the code
        have fault : s.lookups.reply q = .error h := direct ▸ fault
        rcases Store.reported_code fault with other | other
        · rw [other] at code
          exact absurd code (by decide)
        · rw [other] at code
          exact absurd code (by decide)
    · obtain ⟨r, target⟩ := Gate.resource_of_denied one denied
      have stored : s.resources.get? id = some r := by
        rw [direct] at target
        exact found_eq_ok.1 (mapError_eq_ok.1 target)
      refine ⟨r, stored, fun on => ?_⟩
      rw [Gate.guard, on, denied]
      show (g.lookups s).resource id >>= _ = _
      rw [target]
      rfl

def Gate.sample : Gate where
  salt := ⟨[0], by decide⟩
  authenticator := Backend.direct.passwords ⟨[0], by decide⟩ ⟨none, .ofMillis 1⟩
  lookups := Backend.direct.lookups
  cookie := ⟨"SessionId", 60, false⟩
  enabled := true

/-- The sample's user may not delete the repository, and may not ask to read and write it in
    one go. -/
theorem guard_agrees_sample :
    let s := Store.after Change.sample
    let t : SessionToken := ⟨⟨"session"⟩, ⟨"ann"⟩⟩
    Reached s ∧
      Gate.sample.guard t [false, false, false, false, true] ⟨"repo"⟩ "deleteRepo" s =
        .error (Failure.forbiddenAction "deleteRepo" "app" "repo") ∧
      ∃ f, Gate.sample.authorize t [false, true, true, false, false] ⟨"repo"⟩ s = .error f ∧
        f.code = Code.invalidActionMask := by
  intro s t
  obtain ⟨-, -, one⟩ := guard_agrees Gate.sample t [false, false, false, false, true] ⟨"repo"⟩
    "deleteRepo"
  obtain ⟨-, -, two⟩ := guard_agrees Gate.sample t [false, true, true, false, false] ⟨"repo"⟩
    "editRepo"
  have denied : Gate.sample.authorize t [false, false, false, false, true] ⟨"repo"⟩ s =
      .ok false := rfl
  obtain ⟨r, stored, guarded⟩ := (one s rfl).2 (by decide) denied
  cases stored
  exact ⟨reached_after Change.sample, guarded rfl, (two s rfl).1.1 (Or.inr (by decide))⟩

end AccessControl
