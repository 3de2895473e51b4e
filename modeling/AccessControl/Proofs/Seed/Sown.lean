/-
  AccessControl/Proofs/Seed/Sown.lean
  ===================================
  **Where the work on a seed stands.**

  While a seed is carried out, the store goes through a history of changes, and the index
  collects names.  The two belong together: the history consists of what the steps so far
  ask for under the index, no more and no less, and every id in the index is that of one
  thing only.

  Names are never given anew.  The index refuses a resource with a path that is in use,
  and the store a user with a login that is in use.  Only a group could take the path of
  another one, as when a realm has a slash in its name; so the paths of groups have to be
  different for a seed to mean what it says.

  ## Main definitions

  * `Supply.drawn`: the ids that were taken;
  * `SeedIndex.Apart`: no id has two names;
  * `Sown`: where the work stands.

  ## Main statements

  * `SeedStep.Done.apart`: a step leaves all names apart;
  * `Sown.extend`, `Sown.run_steps`: a step, and a row of them, carry the work on;
  * `sown_of_sow`: where the work on a whole seed ends.
-/
import AccessControl.Proofs.Seed.Steps

namespace AccessControl

/-! ## 1. Where the work stands -/

/-- The ids that were taken from a supply. -/
def Supply.drawn (e : Supply) (n : Nat) : List ObjectId := (List.range n).map e.ids

def SeedStep.groupPath? : SeedStep → Option String
  | .group home name _ => some (seedPath home name)
  | _ => none

theorem groupPath?_eq_some {step : SeedStep} {path : String} :
    step.groupPath? = some path ↔ step.name? = some (.group path) := by
  cases step <;> simp [SeedStep.groupPath?, SeedStep.name?]

/-- No id has two names. -/
def SeedIndex.Apart (x : SeedIndex) : Prop :=
  ∀ a b id, x.id? a = some id → x.id? b = some id → a = b

/-- The steps were carried out and nothing else was; the index tells what they made. -/
structure Sown (e : Supply) (done : List SeedStep) (log : List Deed) (w : Sowing) : Prop where
  run : Run .start log ⟨w.store, e.drawn w.taken⟩
  asked : ∀ step ∈ done, ∃ c, step.Asks e w.index c ∧ ⟨c, true⟩ ∈ log
  answered : ∀ d ∈ log, d.done = true ∧ ∃ step ∈ done, step.Asks e w.index d.change
  declared : ∀ a id, w.index.id? a = some id → ∃ step ∈ done, step.name? = some a
  drawn : ∀ a id, w.index.id? a = some id → id ∈ e.drawn w.taken
  apart : ∀ a b id, w.index.id? a = some id → w.index.id? b = some id → a = b

theorem Sown.start (e : Supply) : Sown e [] [] ⟨.empty, .empty, 0⟩ where
  run := .stay
  asked _ h := nomatch h
  answered _ h := nomatch h
  declared a _ h := by cases a <;> cases h
  drawn a _ h := by cases a <;> cases h
  apart a _ _ h := by cases a <;> cases h

/-! ## 2. One step -/

section OneStep

variable {e : Supply} {done : List SeedStep} {log : List Deed} {w v : Sowing} {step : SeedStep}
  {c : Change}

theorem drawn_add (e : Supply) (n : Nat) (o : Option ObjectId)
    (ho : ∀ id, o = some id → id = e.ids n) :
    e.drawn (n + o.toList.length) = e.drawn n ++ o.toList := by
  cases o with
  | none => simp
  | some id =>
    rw [ho id rfl]
    simp [Supply.drawn, List.range_succ]

theorem not_mem_drawn (fresh : Function.Injective e.ids) (n : Nat) : e.ids n ∉ e.drawn n := by
  intro h
  obtain ⟨m, hm, same⟩ := List.mem_map.1 h
  rw [fresh same, List.mem_range] at hm
  exact Nat.lt_irrefl n hm

theorem SeedStep.Done.toStep (h : step.Done e w v c) (fresh : Function.Injective e.ids) :
    Step ⟨w.store, e.drawn w.taken⟩ ⟨c, true⟩ ⟨v.store, e.drawn v.taken⟩ := by
  rw [h.taken, drawn_add e w.taken _ h.id]
  refine .done h.performed ?_
  intro id hid
  rw [h.id id hid]
  exact not_mem_drawn fresh w.taken

theorem Sown.login_taken (h : Sown e done log w) {login : String} {id : ObjectId}
    (known : w.index.id? (.user login) = some id) :
    w.store.logins.get? ⟨login⟩ = some id := by
  obtain ⟨earlier, hearlier, name⟩ := h.declared _ _ known
  obtain ⟨c, asks, hc⟩ := h.asked earlier hearlier
  cases asks with
  | user home named =>
    cases name
    rw [known] at named
    cases named
    exact h.run.login_of_createUser .start hc
  | _ => cases name

theorem SeedStep.Done.login_free {home : String} {u : UserSeed}
    (hs : (SeedStep.user home u).Done e w v c) : w.store.logins.get? ⟨u.login⟩ = none := by
  obtain ⟨store, _, _⟩ := v
  cases hs.asks
  cases Change.effect_of_perform hs.performed with
  | user free => exact free
  | remask asks => cases asks
  | grant asks => cases asks

theorem Sown.name_new (h : Sown e done log w) (hs : step.Done e w v c)
    (distinct : ((done ++ [step]).filterMap SeedStep.groupPath?).Nodup) {a : SeedName}
    (name : step.name? = some a) : w.index.id? a = none := by
  rw [Option.eq_none_iff_forall_ne_some]
  intro id known
  have resource_new : ∀ path, a = .resource path → False := by
    intro path isResource
    rw [(hs.names a name).2.new path isResource] at known
    cases known
  cases step with
  | user realm u =>
    cases name
    have taken := h.login_taken known
    rw [hs.login_free] at taken
    cases taken
  | group realm name description =>
    -- nobody but the seed itself sees to it that the paths of groups differ
    cases name
    obtain ⟨earlier, hearlier, sameName⟩ := h.declared _ _ known
    have before : seedPath realm name ∈ done.filterMap SeedStep.groupPath? :=
      List.mem_filterMap.2 ⟨earlier, hearlier, groupPath?_eq_some.2 sameName⟩
    rw [List.filterMap_append] at distinct
    exact (List.nodup_append.1 distinct).2.2 _ before _ (List.mem_singleton_self _) rfl
  | realm => exact resource_new _ (Option.some.inj name).symm
  | repository => exact resource_new _ (Option.some.inj name).symm
  | child => exact resource_new _ (Option.some.inj name).symm
  | member => cases name
  | grant => cases name

theorem Sown.grows (h : Sown e done log w) (hs : step.Done e w v c)
    (distinct : ((done ++ [step]).filterMap SeedStep.groupPath?).Nodup) :
    w.index.Grows v.index := by
  rcases name : step.name? with _ | a
  · rw [hs.unnamed name]
    exact fun _ _ same => same
  · exact (hs.names a name).2.grows (h.name_new hs distinct name)

/-- What is in the index after a step was there before, or is what the step made. -/
theorem SeedStep.Done.id?_eq_some (hs : step.Done e w v c) {a : SeedName} {id : ObjectId}
    (known : v.index.id? a = some id) :
    w.index.id? a = some id ∨ step.name? = some a ∧ id = e.ids w.taken ∧
      id ∈ e.drawn v.taken := by
  rcases name : step.name? with _ | b
  · rw [hs.unnamed name] at known
    exact Or.inl known
  · obtain ⟨new, names⟩ := hs.names b name
    by_cases same : a = b
    · rw [same, names.self] at known
      refine Or.inr ⟨congrArg some same.symm, (Option.some.inj known).symm, ?_⟩
      rw [hs.taken, drawn_add e w.taken _ hs.id, new, ← Option.some.inj known]
      exact List.mem_append_right _ (List.mem_singleton_self _)
    · rw [names.other same] at known
      exact Or.inl known

/-- What a step names has an id that was drawn. -/
theorem SeedStep.Done.drawn (hs : step.Done e w v c) (fresh : Function.Injective e.ids)
    (drawn : ∀ a id, w.index.id? a = some id → id ∈ e.drawn w.taken) {a : SeedName} {id : ObjectId}
    (known : v.index.id? a = some id) : id ∈ e.drawn v.taken := by
  rcases hs.id?_eq_some known with before | ⟨_, _, drawn⟩
  · exact (hs.toStep fresh).drawn_mono (drawn a id before)
  · exact drawn

/-- The id that a step draws is none of those in the index, so that no id gets two names. -/
theorem SeedStep.Done.apart (hs : step.Done e w v c) (fresh : Function.Injective e.ids)
    (drawn : ∀ a id, w.index.id? a = some id → id ∈ e.drawn w.taken) (apart : w.index.Apart) :
    v.index.Apart := by
  have new_apart : ∀ a id, w.index.id? a = some id → id ≠ e.ids w.taken := by
    rintro a id known rfl
    exact not_mem_drawn fresh w.taken (drawn a _ known)
  intro a b id ha hb
  rcases hs.id?_eq_some ha with beforeA | ⟨nameA, rfl, _⟩
  · rcases hs.id?_eq_some hb with beforeB | ⟨_, rfl, _⟩
    · exact apart a b id beforeA beforeB
    · exact absurd rfl (new_apart a _ beforeA)
  · rcases hs.id?_eq_some hb with beforeB | ⟨nameB, _⟩
    · exact absurd rfl (new_apart b _ beforeB)
    · rw [nameA] at nameB
      exact Option.some.inj nameB

/-- A step carries the work on. -/
theorem Sown.extend (h : Sown e done log w) (hs : step.Done e w v c)
    (fresh : Function.Injective e.ids)
    (distinct : ((done ++ [step]).filterMap SeedStep.groupPath?).Nodup) :
    Sown e (done ++ [step]) (log ++ [⟨c, true⟩]) v := by
  have grows := h.grows hs distinct
  refine
    { run := .more h.run (hs.toStep fresh)
      asked := ?_
      answered := ?_
      declared := ?_
      drawn := fun _ _ known => hs.drawn fresh h.drawn known
      apart := hs.apart fresh h.drawn h.apart }
  · intro s hmem
    rcases List.mem_append.1 hmem with hmem | hmem
    · obtain ⟨c', asks, hc'⟩ := h.asked s hmem
      exact ⟨c', asks.grows grows, List.mem_append_left _ hc'⟩
    · cases List.mem_singleton.1 hmem
      exact ⟨c, hs.asks, List.mem_append_right _ (List.mem_singleton_self _)⟩
  · intro d hd
    rcases List.mem_append.1 hd with hd | hd
    · obtain ⟨carried, s, hmem, asks⟩ := h.answered d hd
      exact ⟨carried, s, List.mem_append_left _ hmem, asks.grows grows⟩
    · cases List.mem_singleton.1 hd
      exact ⟨rfl, step, List.mem_append_right _ (List.mem_singleton_self _), hs.asks⟩
  · intro a id known
    rcases hs.id?_eq_some known with before | ⟨name, _⟩
    · obtain ⟨s, hmem, name⟩ := h.declared a id before
      exact ⟨s, List.mem_append_left _ hmem, name⟩
    · exact ⟨step, List.mem_append_right _ (List.mem_singleton_self _), name⟩

end OneStep

/-! ## 3. All steps -/

theorem Sown.run_steps {e : Supply} (fresh : Function.Injective e.ids) {steps : List SeedStep}
    {done : List SeedStep} {log : List Deed} {w v : Sowing} (h : Sown e done log w)
    (hr : w.run e steps = (v, none))
    (distinct : ((done ++ steps).filterMap SeedStep.groupPath?).Nodup) :
    ∃ log', Sown e (done ++ steps) log' v := by
  -- the steps so far have different paths if all steps have
  refine Sowing.run_induction
    (P := fun done w => (done.filterMap SeedStep.groupPath?).Nodup → ∃ log, Sown e done log w)
    ?_ (fun _ => ⟨log, h⟩) hr distinct
  intro done step w v c ih hs distinct
  have before : (done.filterMap SeedStep.groupPath?).Nodup := by
    rw [List.filterMap_append] at distinct
    exact (List.nodup_append.1 distinct).1
  obtain ⟨log, h⟩ := ih before
  exact ⟨_, h.extend hs fresh distinct⟩

/-- Where the work on a whole seed ends. -/
theorem sown_of_sow {e : Supply} (fresh : Function.Injective e.ids) {seed : Seed} {w : Sowing}
    (hw : seed.sow e .empty = (w, none))
    (distinct : (seed.steps.filterMap SeedStep.groupPath?).Nodup) :
    ∃ log, Sown e seed.steps log w :=
  (Sown.start e).run_steps fresh hw distinct

end AccessControl
