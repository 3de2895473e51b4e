/-
  AccessControl/Proofs/Seed/Steps.lean
  ====================================
  **Steps of a seed as changes of a store.**

  Seeds speak of names and stores of ids, and the index of a seed translates.  A step of a
  seed asks for one change, the one that the step becomes when its names are looked up.
  What a step asks for stays the same while the index grows, so at the end of the work all
  steps can be read under the last index.

  ## Main definitions

  * `SeedName`, `SeedIndex.id?`: the names of all objects, and their ids;
  * `SeedStep.name?`, `GrantSeed.holder?`: what a step names anew, and whom a grant is to;
  * `SeedStep.Asks`: the change that a step asks for;
  * `SeedStep.Done`: a step that was carried out.

  ## Main statements

  * `Asks.grows`: an index that grows does not change what a step asks for;
  * `done_of_perform`: what a step does is what it asks for;
  * `Sowing.run_induction`: what each step carries on, a row of steps carries on.
-/
import AccessControl.Proofs.Store.History
import AccessControl.Seed.Sowing

namespace AccessControl

/-! ## 1. Names -/

/-- The name of an object of a seed. -/
inductive SeedName where
  | resource (path : String)
  | user (login : String)
  | group (path : String)
deriving DecidableEq

/-- The id under a name. -/
def SeedIndex.id? (x : SeedIndex) : SeedName → Option ObjectId
  | .resource path => x.resources.get? path
  | .user login => x.users.get? login
  | .group path => x.groups.get? path

def SeedIndex.Grows (x y : SeedIndex) : Prop := ∀ a id, x.id? a = some id → y.id? a = some id

/-- What a step makes, by its name; nothing for members and grants. -/
def SeedStep.name? : SeedStep → Option SeedName
  | .realm name _ => some (.resource name)
  | .user _ u => some (.user u.login)
  | .group home name _ => some (.group (seedPath home name))
  | .repository home name _ => some (.resource (seedPath home name))
  | .child parent name _ => some (.resource (seedPath parent name))
  | .member .. | .grant _ => none

/-- Whom a grant is to, if it names one party. -/
def GrantSeed.holder? (g : GrantSeed) : Option SeedName :=
  match g.user, g.group with
  | some login, none => some (.user login)
  | none, some path => some (.group path)
  | _, _ => none

theorem find_eq_ok {kind : String} {shelf : Shelf String ObjectId} {name : String} {id : ObjectId} :
    SeedIndex.find kind shelf name = .ok id ↔ shelf.get? name = some id := by
  unfold SeedIndex.find
  cases shelf.get? name <;> simp

theorem party_eq_ok {g : GrantSeed} {x : SeedIndex} {id : ObjectId} :
    g.party x = .ok id ↔ ∃ a, g.holder? = some a ∧ x.id? a = some id := by
  unfold GrantSeed.party GrantSeed.holder?
  rcases g.user with _ | login <;> rcases g.group with _ | path
  · simp
  · simp [SeedIndex.group, find_eq_ok, SeedIndex.id?]
  · simp [SeedIndex.user, find_eq_ok, SeedIndex.id?]
  · simp

/-! ## 2. What a step asks for -/

/-- The change that a step asks for, when its names stand for the ids of an index. -/
inductive SeedStep.Asks (e : Supply) (x : SeedIndex) : SeedStep → Change → Prop
  | realm {name : String} {description : Option String} {id : ObjectId}
      (named : x.id? (.resource name) = some id) :
      Asks e x (.realm name description) (.createRealm id e.now name description)
  | user {realm : String} {u : UserSeed} {id realmId : ObjectId}
      (home : x.id? (.resource realm) = some realmId)
      (named : x.id? (.user u.login) = some id) :
      Asks e x (.user realm u) (.createUser id e.now realmId ⟨u.login⟩ (u.name.getD u.login)
        (e.salt.hashPassword u.password))
  | group {realm name : String} {description : Option String} {id realmId : ObjectId}
      (home : x.id? (.resource realm) = some realmId)
      (named : x.id? (.group (seedPath realm name)) = some id) :
      Asks e x (.group realm name description) (.createGroup id e.now realmId name description)
  | member {path login : String} {userId groupId : ObjectId}
      (hu : x.id? (.user login) = some userId)
      (hg : x.id? (.group path) = some groupId) :
      Asks e x (.member path login) (.addUserToGroup userId groupId)
  | repository {realm name : String} {description : Option String} {id realmId : ObjectId}
      (home : x.id? (.resource realm) = some realmId)
      (named : x.id? (.resource (seedPath realm name)) = some id) :
      Asks e x (.repository realm name description)
        (.createRepository id e.now realmId name description)
  | child {parent name : String} {kind : ResourceKind} {id parentId : ObjectId}
      (above : x.id? (.resource parent) = some parentId)
      (named : x.id? (.resource (seedPath parent name)) = some id) :
      Asks e x (.child parent name kind) (.createResource id e.now parentId name none kind)
  | grant {g : GrantSeed} {a : SeedName} {id resourceId partyId : ObjectId}
      (hr : x.id? (.resource g.resource) = some resourceId)
      (names : g.holder? = some a)
      (ha : x.id? a = some partyId) :
      Asks e x (.grant g) (.addAccess id resourceId partyId (Mask.of g.permissions))

namespace SeedStep

variable {e : Supply} {x y : SeedIndex} {step : SeedStep} {c : Change}

/-- An index that grows does not change what a step asks for. -/
theorem Asks.grows (h : step.Asks e x c) (grows : x.Grows y) : step.Asks e y c := by
  cases h with
  | realm named => exact .realm (grows _ _ named)
  | user home named => exact .user (grows _ _ home) (grows _ _ named)
  | group home named => exact .group (grows _ _ home) (grows _ _ named)
  | member hu hg => exact .member (grows _ _ hu) (grows _ _ hg)
  | repository home named => exact .repository (grows _ _ home) (grows _ _ named)
  | child above named => exact .child (grows _ _ above) (grows _ _ named)
  | grant hr names ha => exact .grant (grows _ _ hr) names (grows _ _ ha)

theorem Asks.onlyAdds (h : step.Asks e x c) (done : Bool) : Deed.OnlyAdds ⟨c, done⟩ := by
  cases h <;> exact ⟨fun _ _ _ _ => nofun, fun _ _ => nofun⟩

end SeedStep

/-! ## 3. What a step does -/

/-- The index with an id under a name, which is new if it is that of a resource. -/
structure SeedIndex.Names (x : SeedIndex) (a : SeedName) (id : ObjectId) (y : SeedIndex) :
    Prop where
  id? : ∀ b, y.id? b = if b = a then some id else x.id? b
  new : ∀ path, a = .resource path → x.id? a = none

namespace SeedIndex

variable {x y : SeedIndex} {id : ObjectId}

theorem Names.grows {a : SeedName} (h : x.Names a id y) (new : x.id? a = none) : x.Grows y := by
  intro b i hb
  rw [h.id?, if_neg]
  · exact hb
  · rintro rfl
    rw [new] at hb
    cases hb

theorem Names.self {a : SeedName} (h : x.Names a id y) : y.id? a = some id := by
  rw [h.id?, if_pos rfl]

theorem Names.other {a b : SeedName} (h : x.Names a id y) (other : b ≠ a) : y.id? b = x.id? b := by
  rw [h.id?, if_neg other]

theorem names_addResource {path : String} (h : x.addResource path id = .ok y) :
    x.Names (.resource path) id y := by
  unfold addResource at h
  split at h
  · cases h
  · next new =>
    cases h
    refine ⟨?_, ?_⟩
    · intro b
      cases b with
      | resource other => simp [SeedIndex.id?, Shelf.get?_put]
      | user => simp [SeedIndex.id?]
      | group => simp [SeedIndex.id?]
    · rintro _ -
      show x.resources.get? path = none
      simpa using new

theorem names_addUser (login : String) : x.Names (.user login) id (x.addUser login id) where
  id? b := by cases b <;> simp [SeedIndex.id?, addUser, Shelf.get?_put]
  new path same := nomatch same

theorem names_addGroup (path : String) : x.Names (.group path) id (x.addGroup path id) where
  id? b := by cases b <;> simp [SeedIndex.id?, addGroup, Shelf.get?_put]
  new path same := nomatch same

end SeedIndex

/-- A step that is carried out makes one change, which is the one that it asks for. -/
structure SeedStep.Done (e : Supply) (step : SeedStep) (w v : Sowing) (c : Change) : Prop where
  asks : step.Asks e v.index c
  performed : c.perform w.store = .ok v.store
  taken : v.taken = w.taken + (c.newId? w.store).toList.length
  id : ∀ id, c.newId? w.store = some id → id = e.ids w.taken
  names : ∀ a, step.name? = some a →
    c.newId? w.store = some (e.ids w.taken) ∧ w.index.Names a (e.ids w.taken) v.index
  unnamed : step.name? = none → v.index = w.index

/-! ## 4. Steps do what they ask for -/

section Made

variable {s t : Store} {id : ObjectId} {now : Timestamp} {name : String}
  {description : Option String}

theorem id_of_createRealm {r : Resource} (h : s.createRealm id now name description = .ok (r, t)) :
    r.id = id := by
  unfold Store.createRealm at h
  split at h
  · cases h
  · cases h
    rfl

theorem id_of_createResource {parentId : ObjectId} {kind : ResourceKind} {r : Resource}
    (h : s.createResource id now parentId name description kind = .ok (r, t)) : r.id = id := by
  obtain ⟨_, _, h⟩ := bind_eq_ok.1 h
  obtain ⟨_, _, h⟩ := bind_eq_ok.1 h
  obtain ⟨child, hc, h⟩ := bind_eq_ok.1 h
  obtain ⟨_, rfl⟩ := Resource.child_eq_ok.1 (mapError_eq_ok.1 hc)
  cases h
  rfl

theorem id_of_createUser {realmId : ObjectId} {login : UserId} {passwordHash : String} {u : User}
    (h : s.createUser id now realmId login name passwordHash = .ok (u, t)) : u.info.id = id := by
  unfold Store.createUser at h
  split at h
  · cases h
  · obtain ⟨_, _, h⟩ := bind_eq_ok.1 h
    cases h
    rfl

theorem id_of_createGroup {realmId : ObjectId} {g : Group}
    (h : s.createGroup id now realmId name description = .ok (g, t)) : g.info.id = id := by
  obtain ⟨_, _, h⟩ := bind_eq_ok.1 h
  cases h
  rfl

end Made

namespace SeedStep

variable {e : Supply} {step : SeedStep} {w v : Sowing}

theorem stored_eq_ok {α β : Type} {x : Except Refusal (α × Store)}
    {f : α × Store → Except SeedFault β} {b : β} :
    (x.mapError SeedFault.refused >>= f) = .ok b ↔ ∃ a t, x = .ok (a, t) ∧ f (a, t) = .ok b := by
  rw [bind_eq_ok]
  constructor
  · rintro ⟨⟨a, t⟩, hx, h⟩
    exact ⟨a, t, mapError_eq_ok.1 hx, h⟩
  · rintro ⟨a, t, hx, h⟩
    exact ⟨(a, t), mapError_eq_ok.2 hx, h⟩

theorem effect_of_perform (h : step.perform e w = (v, none)) :
    step.effect e w = .ok (v.store, v.taken, .ok v.index) := by
  unfold perform at h
  split at h
  · cases h
  · next effect =>
    cases h
    exact effect
  · cases h

theorem Done.making {c : Change} {a : SeedName} (name : step.name? = some a)
    (asks : step.Asks e v.index c) (performed : c.perform w.store = .ok v.store)
    (new : c.newId? w.store = some (e.ids w.taken)) (taken : v.taken = w.taken + 1)
    (names : w.index.Names a (e.ids w.taken) v.index) : step.Done e w v c where
  asks := asks
  performed := performed
  taken := by rw [new, taken]; rfl
  id id hid := by
    rw [new] at hid
    exact (Option.some.inj hid).symm
  names b hb := by
    rw [name] at hb
    cases hb
    exact ⟨new, names⟩
  unnamed absent := by
    rw [name] at absent
    cases absent

theorem done_of_perform (h : step.perform e w = (v, none)) : ∃ c, step.Done e w v c := by
  have h := effect_of_perform h
  obtain ⟨store, index, taken⟩ := v
  cases step with
  | realm name description =>
    obtain ⟨r, t, made, h⟩ := stored_eq_ok.1 h
    injection h with h
    simp only [Prod.mk.injEq] at h
    obtain ⟨rfl, rfl, named⟩ := h
    rw [id_of_createRealm made] at named
    have names := SeedIndex.names_addResource named
    exact ⟨_, .making rfl (.realm names.self) (map_eq_ok.2 ⟨_, made, rfl⟩) rfl rfl names⟩
  | user realm u =>
    obtain ⟨realmId, home, h⟩ := bind_eq_ok.1 h
    obtain ⟨made, t, created, h⟩ := stored_eq_ok.1 h
    injection h with h
    simp only [Prod.mk.injEq, Except.ok.injEq, id_of_createUser created] at h
    obtain ⟨rfl, rfl, rfl⟩ := h
    have names : w.index.Names (.user u.login) (e.ids w.taken)
        (w.index.addUser u.login (e.ids w.taken)) := SeedIndex.names_addUser u.login
    exact ⟨_, .making rfl (.user (find_eq_ok.1 home) names.self)
      (map_eq_ok.2 ⟨_, created, rfl⟩) rfl rfl names⟩
  | group realm name description =>
    obtain ⟨realmId, home, h⟩ := bind_eq_ok.1 h
    obtain ⟨made, t, created, h⟩ := stored_eq_ok.1 h
    injection h with h
    simp only [Prod.mk.injEq, Except.ok.injEq, id_of_createGroup created] at h
    obtain ⟨rfl, rfl, rfl⟩ := h
    have names : w.index.Names (.group (seedPath realm name)) (e.ids w.taken)
        (w.index.addGroup (seedPath realm name) (e.ids w.taken)) :=
      SeedIndex.names_addGroup (seedPath realm name)
    exact ⟨_, .making rfl (.group (find_eq_ok.1 home) names.self)
      (map_eq_ok.2 ⟨_, created, rfl⟩) rfl rfl names⟩
  | member path login =>
    obtain ⟨userId, hu, h⟩ := bind_eq_ok.1 h
    obtain ⟨groupId, hg, h⟩ := bind_eq_ok.1 h
    obtain ⟨t, added, h⟩ := bind_eq_ok.1 h
    have added := mapError_eq_ok.1 added
    injection h with h
    simp only [Prod.mk.injEq, Except.ok.injEq] at h
    obtain ⟨rfl, rfl, rfl⟩ := h
    exact ⟨_, .member (find_eq_ok.1 hu) (find_eq_ok.1 hg), added, rfl, nofun, nofun, fun _ => rfl⟩
  | repository realm name description =>
    obtain ⟨realmId, home, h⟩ := bind_eq_ok.1 h
    obtain ⟨made, t, created, h⟩ := stored_eq_ok.1 h
    injection h with h
    simp only [Prod.mk.injEq, id_of_createResource created] at h
    obtain ⟨rfl, rfl, named⟩ := h
    have names := SeedIndex.names_addResource named
    -- the path is new, so the realm is found under its own path as before
    have grows := names.grows (names.new _ rfl)
    exact ⟨_, .making rfl (.repository (grows _ _ (find_eq_ok.1 home)) names.self)
      (map_eq_ok.2 ⟨_, created, rfl⟩) rfl rfl names⟩
  | child parent name kind =>
    obtain ⟨parentId, above, h⟩ := bind_eq_ok.1 h
    obtain ⟨made, t, created, h⟩ := stored_eq_ok.1 h
    injection h with h
    simp only [Prod.mk.injEq, id_of_createResource created] at h
    obtain ⟨rfl, rfl, named⟩ := h
    have names := SeedIndex.names_addResource named
    have grows := names.grows (names.new _ rfl)
    exact ⟨_, .making rfl (.child (grows _ _ (find_eq_ok.1 above)) names.self)
      (map_eq_ok.2 ⟨_, created, rfl⟩) rfl rfl names⟩
  | grant g =>
    obtain ⟨resourceId, hr, h⟩ := bind_eq_ok.1 h
    obtain ⟨partyId, party, h⟩ := bind_eq_ok.1 h
    obtain ⟨made, t, added, h⟩ := stored_eq_ok.1 h
    injection h with h
    simp only [Prod.mk.injEq, Except.ok.injEq] at h
    obtain ⟨rfl, rfl, rfl⟩ := h
    obtain ⟨a, names, ha⟩ := party_eq_ok.1 party
    refine ⟨.addAccess (e.ids w.taken) resourceId partyId (Mask.of g.permissions),
      .grant (find_eq_ok.1 hr) names ha, map_eq_ok.2 ⟨_, added, rfl⟩, ?_, ?_, nofun, fun _ => rfl⟩
    -- an id is taken exactly if the pair has no grant yet
    · show (if _ then _ else _) = w.taken + (if _ then none else some (e.ids w.taken)).toList.length
      cases w.store.entryFor? resourceId partyId <;> rfl
    · intro id hid
      simp only [Change.newId?] at hid
      split at hid
      · cases hid
      · exact (Option.some.inj hid).symm

end SeedStep

/-! ## 5. Rows of steps -/

theorem Sowing.run_cons_inv {e : Supply} {w v : Sowing} {step : SeedStep} {rest : List SeedStep}
    (h : w.run e (step :: rest) = (v, none)) :
    ∃ x c, (step.perform e w).1 = x ∧ step.Done e w x c ∧ x.run e rest = (v, none) := by
  rw [run] at h
  rcases performed : step.perform e w with ⟨x, _ | fault⟩
  · rw [performed] at h
    obtain ⟨c, first⟩ := SeedStep.done_of_perform performed
    exact ⟨x, c, rfl, first, h⟩
  · rw [performed] at h
    cases h

/-- What each step carries on, a row of steps carries on. -/
theorem Sowing.run_induction {e : Supply} {P : List SeedStep → Sowing → Prop}
    (onward : ∀ {done step w v c}, P done w → step.Done e w v c → P (done ++ [step]) v)
    {steps done : List SeedStep} {w v : Sowing} (start : P done w)
    (hr : w.run e steps = (v, none)) : P (done ++ steps) v := by
  induction steps generalizing done w with
  | nil =>
    cases hr
    rw [List.append_nil]
    exact start
  | cons step rest ih =>
    obtain ⟨x, c, -, first, later⟩ := run_cons_inv hr
    rw [List.append_cons]
    exact ih (onward start first) later

end AccessControl
