/-
  AccessControl/Proofs/Store/Change.lean
  ======================================
  **Changes of a store, and runs of changes.**

  The public mutations of a store as data, so that a property can be stated for every
  history.  A change is carried out or refused; one that makes an object draws the
  object's id, and an id that is drawn was never drawn before.  That is all that is
  assumed of ids: they may be any texts, and a change may mention ids of nothing.

  `Effect` says what each change does when it is carried out, once and for all: what
  holds of a single change is proved by cases on it, and what holds of a history by
  `Run.keeps` or by induction on `Run`.

  ## Main definitions

  * `Change`, `Change.perform`: the mutations as data;
  * `Change.Effect`: what a change does;
  * `Stage`, `Step`, `Run`, `Reached`: histories;
  * `Stage.follow`: carrying out a history.

  ## Main statements

  * `effect_of_perform`: a change that is carried out has its effect;
  * `Run.keeps`: what every step keeps holds after every run;
  * `run_of_follow`: every list of changes that draws no id twice is a run.
-/
import AccessControl.Store.Access

namespace AccessControl

/-! ## 1. Computations that may fail -/

section Failing

variable {ε ε' α β : Type}

theorem bind_eq_ok {x : Except ε α} {f : α → Except ε β} {b : β} :
    (x >>= f) = .ok b ↔ ∃ a, x = .ok a ∧ f a = .ok b := by
  cases x with
  | error e => simp [bind, Except.bind]
  | ok a => simp [bind, Except.bind]

theorem map_eq_ok {x : Except ε α} {f : α → β} {b : β} :
    x.map f = .ok b ↔ ∃ a, x = .ok a ∧ f a = b := by
  cases x with
  | error e => simp [Except.map]
  | ok a => simp [Except.map]

theorem mapError_eq_ok {x : Except ε α} {f : ε → ε'} {a : α} :
    x.mapError f = .ok a ↔ x = .ok a := by
  cases x with
  | error e => exact ⟨fun h => (nomatch h), fun h => (nomatch h)⟩
  | ok b => exact ⟨fun h => by cases h; rfl, fun h => by cases h; rfl⟩

theorem found_eq_ok {refusal : Refusal} {o : Option α} {a : α} :
    Store.found refusal o = .ok a ↔ o = some a := by
  cases o <;> simp [Store.found]

theorem mapM_eq_ok {f : α → Except ε β} {l : List α}
    (h : ∀ a ∈ l, ∃ b, f a = .ok b) :
    ∃ bs, l.mapM f = .ok bs ∧ ∀ b, b ∈ bs ↔ ∃ a ∈ l, f a = .ok b := by
  induction l with
  | nil => exact ⟨[], rfl, by simp⟩
  | cons a l ih =>
    obtain ⟨b, hb⟩ := h a (List.mem_cons_self ..)
    obtain ⟨bs, hbs, mem⟩ := ih fun a' ha' => h a' (List.mem_cons_of_mem _ ha')
    refine ⟨b :: bs, ?_, ?_⟩
    · rw [List.mapM_cons, hb, hbs]
      rfl
    · intro b'
      simp [mem, hb, eq_comm]

end Failing

/-! ## 2. Changes -/

/-- A public mutation of a store, with the id of the object that it may make. -/
inductive Change where
  | createRealm (id : ObjectId) (now : Timestamp) (name : String) (description : Option String)
  | createRepository (id : ObjectId) (now : Timestamp) (realmId : ObjectId) (name : String)
      (description : Option String)
  | createResource (id : ObjectId) (now : Timestamp) (parentId : ObjectId) (name : String)
      (description : Option String) (kind : ResourceKind)
  | createUser (id : ObjectId) (now : Timestamp) (realmId : ObjectId) (login : UserId)
      (name passwordHash : String)
  | createGroup (id : ObjectId) (now : Timestamp) (realmId : ObjectId) (name : String)
      (description : Option String)
  | addUserToGroup (userObject groupId : ObjectId)
  | setAccess (id resourceId partyId : ObjectId) (mask : Mask)
  | addAccess (id resourceId partyId : ObjectId) (mask : Mask)
  | deleteAccess (resourceId partyId : ObjectId)
  | recordAttempt (userObject : ObjectId) (attempt : LoginAttempt)
deriving DecidableEq

namespace Change

open Store

/-- The store after a change, or the refusal. -/
def perform (s : Store) : Change → Except Refusal Store
  | createRealm id now name description => (s.createRealm id now name description).map Prod.snd
  | createRepository id now realmId name description =>
    (s.createRepository id now realmId name description).map Prod.snd
  | createResource id now parentId name description kind =>
    (s.createResource id now parentId name description kind).map Prod.snd
  | createUser id now realmId login name passwordHash =>
    (s.createUser id now realmId login name passwordHash).map Prod.snd
  | createGroup id now realmId name description =>
    (s.createGroup id now realmId name description).map Prod.snd
  | addUserToGroup userObject groupId => s.addUserToGroup userObject groupId
  | setAccess id resourceId partyId mask => (s.setAccess id resourceId partyId mask).map Prod.snd
  | addAccess id resourceId partyId mask => (s.addAccess id resourceId partyId mask).map Prod.snd
  | deleteAccess resourceId partyId => s.deleteAccess resourceId partyId
  | recordAttempt userObject attempt => s.recordAttempt userObject attempt

def newId? (s : Store) : Change → Option ObjectId
  | createRealm id .. | createRepository id .. | createResource id .. | createUser id ..
  | createGroup id .. => some id
  | setAccess id resourceId partyId _ | addAccess id resourceId partyId _ =>
    if (s.entryFor? resourceId partyId).isSome then none else some id
  | addUserToGroup .. | deleteAccess .. | recordAttempt .. => none

/-- The change grants a party something on a resource: the function makes the new mask
    from the one held so far. -/
inductive Grants : Change → ObjectId → ObjectId → ObjectId → (Mask → Mask) → Prop
  | set (id resourceId partyId : ObjectId) (mask : Mask) :
      Grants (setAccess id resourceId partyId mask) id resourceId partyId fun _ => mask
  | add (id resourceId partyId : ObjectId) (mask : Mask) :
      Grants (addAccess id resourceId partyId mask) id resourceId partyId fun held =>
        held.union mask

theorem Grants.unique {c : Change} {id id' r r' p p' : ObjectId} {f f' : Mask → Mask}
    (h : c.Grants id r p f) (h' : c.Grants id' r' p' f') :
    id = id' ∧ r = r' ∧ p = p' ∧ f = f' := by
  cases h <;> cases h' <;> exact ⟨rfl, rfl, rfl, rfl⟩

theorem Grants.newId? {c : Change} {s : Store} {id r p : ObjectId} {f : Mask → Mask}
    (asks : c.Grants id r p f) (new : s.entryFor? r p = none) : c.newId? s = some id := by
  cases asks <;> simp [Change.newId?, new]

/-- What a change does when it is carried out. -/
inductive Effect (s : Store) : Change → Store → Prop
  | realm {id : ObjectId} {now : Timestamp} {name : String} {description : Option String}
      (free : s.hasRealm name = false) :
      Effect s (createRealm id now name description)
        (s.putResource (.realm id now name description .empty))
  | resource {id parentId : ObjectId} {now : Timestamp} {name : String}
      {description : Option String} {kind adopted : ResourceKind} {parent : Resource}
      (named : checkName name kind = .ok ())
      (above : s.resources.get? parentId = some parent)
      (fits : kind.type.parentType? = some parent.type)
      (lists : parent.kind.adopt kind.type id = some adopted) :
      Effect s (createResource id now parentId name description kind)
        ((s.putResource { parent with kind := adopted }).putResource
          ⟨id, name, description, now, some parent.id, [], kind⟩)
  | repository {id realmId : ObjectId} {now : Timestamp} {name : String}
      {description : Option String} {t : Store}
      (made : Effect s (createResource id now realmId name description (.repository .empty)) t) :
      Effect s (createRepository id now realmId name description) t
  | user {id realmId : ObjectId} {now : Timestamp} {login : UserId} {name passwordHash : String}
      {realm : Resource} {data : RealmData}
      (free : s.logins.get? login = none)
      (home : s.resources.get? realmId = some realm)
      (isRealm : realm.kind = .realm data) :
      Effect s (createUser id now realmId login name passwordHash)
        { s with
          resources := s.resources.put realmId
            { realm with kind := .realm { data with userIds := data.userIds ++ [id] } }
          parties := s.parties.put id
            (.user (User.new (PartyInfo.new id now name realmId) login passwordHash))
          logins := s.logins.put login id }
  | group {id realmId : ObjectId} {now : Timestamp} {name : String} {description : Option String}
      {realm : Resource} {data : RealmData}
      (home : s.resources.get? realmId = some realm)
      (isRealm : realm.kind = .realm data) :
      Effect s (createGroup id now realmId name description)
        { s with
          resources := s.resources.put realmId
            { realm with kind := .realm { data with groupIds := data.groupIds ++ [id] } }
          parties := s.parties.put id
            (.group (Group.new (PartyInfo.new id now name realmId) description)) }
  | member {userObject groupId : ObjectId} {u : User} {g : Group}
      (hu : s.parties.get? userObject = some (.user u))
      (hg : s.parties.get? groupId = some (.group g))
      (home : u.info.realmId = g.info.realmId) :
      Effect s (addUserToGroup userObject groupId)
        { s with
          parties := (s.parties.put userObject
            (.user { u with groupIds := ObjectId.append u.groupIds groupId })).put groupId
            (.group { g with userIds := ObjectId.append g.userIds userObject }) }
  | remask {c : Change} {id resourceId partyId : ObjectId} {f : Mask → Mask} {r : Resource}
      {p : Party} {e : AclEntry}
      (asks : c.Grants id resourceId partyId f)
      (hr : s.resources.get? resourceId = some r)
      (hp : s.parties.get? partyId = some p)
      (held : s.entryFor? resourceId partyId = some e) :
      Effect s c { s with entries := s.entries.put e.id { e with mask := f e.mask } }
  | grant {c : Change} {id resourceId partyId : ObjectId} {f : Mask → Mask} {r : Resource}
      {p : Party}
      (asks : c.Grants id resourceId partyId f)
      (hr : s.resources.get? resourceId = some r)
      (hp : s.parties.get? partyId = some p)
      (new : s.entryFor? resourceId partyId = none) :
      Effect s c
        { s with
          resources := s.resources.put resourceId (r.attach id)
          parties := s.parties.put partyId (p.attach id)
          entries := s.entries.put id ⟨id, resourceId, partyId, f Mask.none⟩ }
  | revoke {resourceId partyId : ObjectId} {e : AclEntry}
      (held : s.entryFor? resourceId partyId = some e) :
      Effect s (deleteAccess resourceId partyId)
        { s with
          entries := s.entries.erase e.id
          resources := match s.resources.get? resourceId with
            | some r => s.resources.put resourceId (r.detach e.id)
            | none => s.resources
          parties := match s.parties.get? partyId with
            | some p => s.parties.put partyId (p.detach e.id)
            | none => s.parties }
  | attempt {userObject : ObjectId} {attempt : LoginAttempt} {u : User}
      (hu : s.parties.get? userObject = some (.user u)) :
      Effect s (recordAttempt userObject attempt)
        { s with
          parties := s.parties.put userObject
            (.user { u with attempts := u.attempts ++ [attempt] }) }

/-! ## 3. Changes have their effects -/

variable {s t : Store}

theorem effect_createResource {id parentId : ObjectId} {now : Timestamp} {name : String}
    {description : Option String} {kind : ResourceKind} {made : Resource}
    (h : s.createResource id now parentId name description kind = .ok (made, t)) :
    Effect s (createResource id now parentId name description kind) t := by
  obtain ⟨_, named, h⟩ := bind_eq_ok.1 h
  obtain ⟨parent, above, h⟩ := bind_eq_ok.1 h
  obtain ⟨child, hc, h⟩ := bind_eq_ok.1 h
  obtain ⟨fits, rfl⟩ := Resource.child_eq_ok.1 (mapError_eq_ok.1 hc)
  obtain ⟨adopted, lists⟩ := Option.isSome_iff_exists.1 ((ResourceKind.adopt_isSome id).2 fits)
  rw [lists] at h
  cases h
  exact .resource named (found_eq_ok.1 above) fits lists

theorem updateRealm_eq_ok {id : ObjectId} {f : RealmData → RealmData}
    (h : s.updateRealm id f = .ok t) :
    ∃ r data, s.resources.get? id = some r ∧ r.kind = .realm data ∧
      t = { s with resources := s.resources.put id { r with kind := .realm (f data) } } := by
  obtain ⟨r, hr, h⟩ := bind_eq_ok.1 h
  rcases hk : r.kind with data | _ | _ | _ | _ | _
  case realm =>
    simp only [hk] at h
    cases h
    exact ⟨r, data, found_eq_ok.1 hr, hk, rfl⟩
  all_goals
    simp only [hk] at h
    cases h

theorem effect_createUser {id realmId : ObjectId} {now : Timestamp} {login : UserId}
    {name passwordHash : String} {made : User}
    (h : s.createUser id now realmId login name passwordHash = .ok (made, t)) :
    Effect s (createUser id now realmId login name passwordHash) t := by
  unfold Store.createUser at h
  split at h
  · cases h
  · next free =>
    obtain ⟨s', hs, h⟩ := bind_eq_ok.1 h
    obtain ⟨realm, data, home, isRealm, rfl⟩ := updateRealm_eq_ok hs
    cases h
    exact .user (by simpa using free) home isRealm

theorem effect_createGroup {id realmId : ObjectId} {now : Timestamp} {name : String}
    {description : Option String} {made : Group}
    (h : s.createGroup id now realmId name description = .ok (made, t)) :
    Effect s (createGroup id now realmId name description) t := by
  obtain ⟨s', hs, h⟩ := bind_eq_ok.1 h
  obtain ⟨realm, data, home, isRealm, rfl⟩ := updateRealm_eq_ok hs
  cases h
  exact .group home isRealm

theorem group_eq_ok {id : ObjectId} {g : Group} (h : s.group id = .ok g) :
    s.parties.get? id = some (.group g) := by
  obtain ⟨p, hp, h⟩ := bind_eq_ok.1 h
  cases p with
  | user u => cases h
  | group g' =>
    cases h
    exact found_eq_ok.1 hp

theorem effect_addUserToGroup {userObject groupId : ObjectId}
    (h : s.addUserToGroup userObject groupId = .ok t) :
    Effect s (addUserToGroup userObject groupId) t := by
  obtain ⟨g, hg, h⟩ := bind_eq_ok.1 h
  obtain ⟨p, hp, h⟩ := bind_eq_ok.1 h
  cases p with
  | group g' => cases h
  | user u =>
    simp only at h
    split at h
    · cases h
    · next home =>
      cases h
      exact .member (found_eq_ok.1 hp) (group_eq_ok hg) (Classical.not_not.1 home)

theorem effect_updateAccess {c : Change} {id resourceId partyId : ObjectId} {f : Mask → Mask}
    {e : AclEntry} (asks : c.Grants id resourceId partyId f)
    (h : s.updateAccess id resourceId partyId f = .ok (e, t)) : Effect s c t := by
  obtain ⟨r, hr, h⟩ := bind_eq_ok.1 h
  obtain ⟨p, hp, h⟩ := bind_eq_ok.1 h
  rcases held : s.entryFor? resourceId partyId with _ | e'
  · rw [held] at h
    cases h
    exact .grant asks (found_eq_ok.1 hr) (found_eq_ok.1 hp) held
  · rw [held] at h
    cases h
    exact .remask asks (found_eq_ok.1 hr) (found_eq_ok.1 hp) held

/-- A change that is carried out has its effect. -/
theorem effect_of_perform {c : Change} (h : c.perform s = .ok t) : Effect s c t := by
  cases c with
  | createRealm id now name description =>
    obtain ⟨⟨made, t⟩, hmade, rfl⟩ := map_eq_ok.1 h
    unfold Store.createRealm at hmade
    split at hmade
    · cases hmade
    · next free =>
      cases hmade
      exact .realm (by simpa using free)
  | createRepository id now realmId name description =>
    obtain ⟨⟨made, t⟩, hmade, rfl⟩ := map_eq_ok.1 h
    exact .repository (effect_createResource hmade)
  | createResource id now parentId name description kind =>
    obtain ⟨⟨made, t⟩, hmade, rfl⟩ := map_eq_ok.1 h
    exact effect_createResource hmade
  | createUser id now realmId login name passwordHash =>
    obtain ⟨⟨made, t⟩, hmade, rfl⟩ := map_eq_ok.1 h
    exact effect_createUser hmade
  | createGroup id now realmId name description =>
    obtain ⟨⟨made, t⟩, hmade, rfl⟩ := map_eq_ok.1 h
    exact effect_createGroup hmade
  | addUserToGroup userObject groupId => exact effect_addUserToGroup h
  | setAccess id resourceId partyId mask =>
    obtain ⟨⟨e, t⟩, hmade, rfl⟩ := map_eq_ok.1 h
    exact effect_updateAccess (.set id resourceId partyId mask) hmade
  | addAccess id resourceId partyId mask =>
    obtain ⟨⟨e, t⟩, hmade, rfl⟩ := map_eq_ok.1 h
    exact effect_updateAccess (.add id resourceId partyId mask) hmade
  | deleteAccess resourceId partyId =>
    simp only [perform, Store.deleteAccess] at h
    rcases held : s.entryFor? resourceId partyId with _ | e
    · rw [held] at h
      cases h
    · rw [held] at h
      cases h
      exact .revoke held
  | recordAttempt userObject attempt =>
    obtain ⟨p, hp, h⟩ := bind_eq_ok.1 h
    cases p with
    | group g => cases h
    | user u =>
      cases h
      exact .attempt (found_eq_ok.1 hp)

theorem group_ne_user {userObject groupId : ObjectId} {u : User} {g : Group}
    (hu : s.parties.get? userObject = some (.user u))
    (hg : s.parties.get? groupId = some (.group g)) : groupId ≠ userObject := by
  rintro rfl
  rw [hu] at hg
  cases hg

theorem group_stays {userObject groupId : ObjectId} {u : User} {g : Group}
    (hu : s.parties.get? userObject = some (.user u))
    (hg : s.parties.get? groupId = some (.group g)) (p : Party) :
    (s.parties.put userObject p).get? groupId = some (.group g) := by
  rw [Shelf.get?_put, if_neg (group_ne_user hu hg)]
  exact hg

end Change

/-! ## 4. Histories -/

/-- A store, with the ids that were drawn for objects so far. -/
structure Stage where
  store : Store
  drawn : List ObjectId

def Stage.start : Stage := ⟨.empty, []⟩

/-- A change that was asked for, and whether it was carried out. -/
structure Deed where
  change : Change
  done : Bool
deriving DecidableEq

/-- One step of a history.  A change that is refused leaves everything as it is; one that
    is carried out draws an id that was never drawn before, if it makes something. -/
inductive Step (w : Stage) : Deed → Stage → Prop
  | done {c : Change} {t : Store} (performed : c.perform w.store = .ok t)
      (fresh : ∀ id, c.newId? w.store = some id → id ∉ w.drawn) :
      Step w ⟨c, true⟩ ⟨t, w.drawn ++ (c.newId? w.store).toList⟩
  | refused {c : Change} {refusal : Refusal} (h : c.perform w.store = .error refusal) :
      Step w ⟨c, false⟩ w

theorem Step.drawn_mono {w v : Stage} {d : Deed} (hs : Step w d v) {k : ObjectId}
    (h : k ∈ w.drawn) : k ∈ v.drawn := by
  cases hs with
  | refused => exact h
  | done => exact List.mem_append_left _ h

/-- Steps one after another, with what was done in their order. -/
inductive Run (w : Stage) : List Deed → Stage → Prop
  | stay : Run w [] w
  | more {log : List Deed} {d : Deed} {v v' : Stage} (first : Run w log v) (last : Step v d v') :
      Run w (log ++ [d]) v'

/-- A store to which some history leads from the empty store. -/
def Reached (s : Store) : Prop := ∃ log drawn, Run .start log ⟨s, drawn⟩

/-- What every step keeps holds after every run. -/
theorem Run.keeps {P : Stage → Prop} {w v : Stage} {log : List Deed}
    (step : ∀ {v v' : Stage} {d : Deed}, P v → Step v d v' → P v') (h : Run w log v) (hw : P w) :
    P v := by
  induction h with
  | stay => exact hw
  | more _ last ih => exact step ih last

theorem Run.trans {w v x : Stage} {log log' : List Deed} (h : Run w log v) (h' : Run v log' x) :
    Run w (log ++ log') x := by
  induction h' with
  | stay => simpa using h
  | more _ last ih =>
    rw [← List.append_assoc]
    exact .more ih last

theorem Step.cons {w v x : Stage} {d : Deed} {log : List Deed} (hs : Step w d v)
    (h : Run v log x) : Run w (d :: log) x :=
  (Run.more .stay hs).trans h

/-! ## 5. Carrying out a history -/

namespace Stage

def next (w : Stage) (c : Change) : Option (Deed × Stage) :=
  match c.perform w.store with
  | .error _ => some (⟨c, false⟩, w)
  | .ok t =>
    if (c.newId? w.store).any fun id => w.drawn.contains id then none
    else some (⟨c, true⟩, ⟨t, w.drawn ++ (c.newId? w.store).toList⟩)

/-- All changes of a list, one after another. -/
def follow (w : Stage) : List Change → Option (List Deed × Stage)
  | [] => some ([], w)
  | c :: cs =>
    match w.next c with
    | none => none
    | some (d, v) => (v.follow cs).map fun (log, x) => (d :: log, x)

theorem step_of_next {w v : Stage} {c : Change} {d : Deed} (h : w.next c = some (d, v)) :
    Step w d v := by
  unfold next at h
  rcases performed : c.perform w.store with refusal | t
  · rw [performed] at h
    cases h
    exact .refused performed
  · rw [performed] at h
    simp only at h
    split at h
    · cases h
    · next fresh =>
      cases h
      refine .done performed fun id hid drawn => fresh ?_
      rw [hid]
      simpa using drawn

/-- What is carried out without drawing an id twice is a run. -/
theorem run_of_follow {cs : List Change} {w v : Stage} {log : List Deed}
    (h : w.follow cs = some (log, v)) : Run w log v := by
  induction cs generalizing w log with
  | nil =>
    cases h
    exact .stay
  | cons c cs ih =>
    simp only [follow] at h
    rcases first : w.next c with _ | ⟨d, x⟩
    · rw [first] at h
      cases h
    · rw [first] at h
      obtain ⟨⟨log', v'⟩, rest, hv⟩ := Option.map_eq_some_iff.1 h
      cases hv
      exact (step_of_next first).cons (ih rest)

def reach (w : Stage) (cs : List Change) : List Deed × Stage := (w.follow cs).getD ([], w)

theorem run_reach (w : Stage) (cs : List Change) : Run w (w.reach cs).1 (w.reach cs).2 := by
  unfold reach
  rcases carried : w.follow cs with _ | ⟨log, v⟩
  · exact .stay
  · exact run_of_follow carried

end Stage

def Store.after (cs : List Change) : Store := (Stage.start.reach cs).2.store

theorem reached_after (cs : List Change) : Reached (.after cs) :=
  ⟨_, _, Stage.start.run_reach cs⟩

/-- A user in a group whose grant on the realm was made, taken back, made again and
    extended, between refused changes. -/
def Change.sample : List Change :=
  [.createRealm ⟨"realm"⟩ ⟨0⟩ "acme" none,
   .createRepository ⟨"repo"⟩ ⟨1⟩ ⟨"realm"⟩ "app" none,
   .createUser ⟨"ann"⟩ ⟨2⟩ ⟨"realm"⟩ ⟨"ann"⟩ "Ann" "",
   .createGroup ⟨"devs"⟩ ⟨3⟩ ⟨"realm"⟩ "devs" none,
   .addUserToGroup ⟨"devs"⟩ ⟨"devs"⟩,
   .addUserToGroup ⟨"ann"⟩ ⟨"devs"⟩,
   .addAccess ⟨"first"⟩ ⟨"realm"⟩ ⟨"nobody"⟩ (.single .read),
   .addAccess ⟨"first"⟩ ⟨"realm"⟩ ⟨"devs"⟩ (.single .read),
   .deleteAccess ⟨"realm"⟩ ⟨"devs"⟩,
   .deleteAccess ⟨"realm"⟩ ⟨"devs"⟩,
   .setAccess ⟨"second"⟩ ⟨"realm"⟩ ⟨"devs"⟩ (.single .write),
   .addAccess ⟨"third"⟩ ⟨"realm"⟩ ⟨"devs"⟩ (.single .execute)]

end AccessControl
