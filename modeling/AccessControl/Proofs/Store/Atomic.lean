/-
  AccessControl/Proofs/Store/Atomic.lean
  ======================================
  **A change is carried out as a whole or not at all.**

  In place, a change writes one object after another and may end early between two writes.
  Nothing keeps a half-made change from the store but the order of look-ups and writes: every
  look-up that can still fail comes before the first write.  The look-ups after it succeed,
  since what they look for was found before and was not touched, or was put back under the
  same id.  For this, parents must stand under their own ids, and the right parents must have
  lists for their children.

  So every row of look-ups and writes does what the change in one go does (`inPlace_eq`).
  When that succeeds can be said by what is stored (`Change.Admitted`).

  ## Main definitions

  * `InPlace.ended`: how a row ends that does what a change in one go does;
  * `Change.inPlace`: the changes as rows;
  * `Change.Admitted`: what must be stored for a change to be carried out.

  ## Main statements

  * `inPlace_eq`: a row does what the change in one go does;
  * `admitted_iff`: a change is carried out exactly when it is admitted;
  * `changes_atomic`: both, in every store that can be reached.
-/
import AccessControl.Proofs.Store.Membership
import AccessControl.Store.InPlace

namespace AccessControl

theorem Shelf.put_of_get? {κ ν : Type} [DecidableEq κ] {s : Shelf κ ν} {k : κ} {v : ν}
    (h : s.get? k = some v) : s.put k v = s := by
  have found : s.entries.lookup k = some v → Shelf.putEntry k v s.entries = s.entries := by
    induction s.entries with
    | nil => simp
    | cons e rest ih =>
      obtain ⟨l, w⟩ := e
      by_cases hl : l = k
      · subst hl
        simp [Shelf.putEntry, eq_comm]
      · have other : (k == l) = false := by simpa using Ne.symm hl
        simpa only [List.lookup_cons, other, Shelf.putEntry, if_neg hl, List.cons.injEq,
          true_and] using ih
  exact Shelf.ext_entries (found h)

namespace InPlace

variable {α β : Type} {s : Store}

/-! ## 1. Rows of look-ups and writes -/

/-- How a row ends that does what a change in one go does: the tables are changed as a whole,
    or not at all. -/
def ended (s : Store) : Except Refusal (α × Store) → EStateM.Result Halt Store α
  | .ok (a, t) => .ok a t
  | .error why => .error (.refused why) s

theorem look_bind {f : Store → Except Refusal α} {row : α → InPlace β}
    {change : α → Except Refusal (β × Store)}
    (rest : ∀ a, f s = .ok a → row a s = ended s (change a)) :
    (look f >>= row) s = ended s (f s >>= change) := by
  rcases found : f s with why | a
  · show EStateM.bind (look f) row s = _
    simp only [EStateM.bind, look, found]
    rfl
  · show EStateM.bind (look f) row s = _
    simp only [EStateM.bind, look, found]
    exact rest a found

theorem bind_ok {first : InPlace α} {row : α → InPlace β} {a : α} {t : Store}
    (done : first s = .ok a t) : (first >>= row) s = row a t := by
  show EStateM.bind first row s = _
  rw [EStateM.bind, done]

theorem look_bind_ok {f : Store → Except Refusal α} {row : α → InPlace β} {a : α}
    (found : f s = .ok a) : (look f >>= row) s = row a s :=
  bind_ok (by rw [look, found])

theorem look_bind_error {f : Store → Except Refusal α} {row : α → InPlace β} {why : Refusal}
    (refused : f s = .error why) : (look f >>= row) s = .error (.refused why) s := by
  show EStateM.bind (look f) row s = _
  simp only [EStateM.bind, look, refused]

theorem putResource_eq (id : ObjectId) (r : Resource) :
    putResource id r s = .ok () { s with resources := s.resources.put id r } := rfl

theorem eraseEntry_eq (id : ObjectId) :
    eraseEntry id s = .ok () { s with entries := s.entries.erase id } := rfl

/-! ## 2. Every row does what the change in one go does -/

theorem createRealm_eq (id : ObjectId) (now : Timestamp) (name : String)
    (description : Option String) :
    createRealm id now name description s = ended s (s.createRealm id now name description) := by
  unfold Store.createRealm
  by_cases taken : s.hasRealm name = true
  · rw [if_pos taken]
    exact look_bind_error (by simp [taken])
  · rw [if_neg taken]
    exact look_bind_ok (a := ()) (by simp [taken])

theorem createResource_eq (own : s.resources.Keyed Resource.id) (id : ObjectId) (now : Timestamp)
    (parentId : ObjectId) (name : String) (description : Option String) (kind : ResourceKind) :
    createResource id now parentId name description kind s =
      ended s (s.createResource id now parentId name description kind) := by
  refine look_bind fun _ _ => ?_
  refine look_bind fun parent found => ?_
  refine look_bind fun child made => ?_
  have fits := (Resource.child_eq_ok.1 (mapError_eq_ok.1 made)).1
  -- the kind that was checked has a list, so the row cannot halt between check and write
  obtain ⟨adopted, lists⟩ := Option.isSome_iff_exists.1 ((ResourceKind.adopt_isSome id).2 fits)
  have parentOwn : parent.id = parentId := own _ _ (found_eq_ok.1 found)
  have childOwn : child.id = id := by
    rw [(Resource.child_eq_ok.1 (mapError_eq_ok.1 made)).2]
  rw [look_bind_ok found, lists]
  subst parentOwn childOwn
  simp only [adopt, lists]
  rfl

theorem updateRealm_eq (id : ObjectId) (f : RealmData → RealmData) :
    s.updateRealm id f = (realm s id).map fun (r, data) =>
      { s with resources := s.resources.put id { r with kind := .realm (f data) } } := by
  unfold Store.updateRealm realm
  rcases s.resource id with why | r
  · rfl
  · rcases hk : r.kind with _ | _ | _ | _ | _ | _
    all_goals
      simp only [bind, Except.bind, hk]
      rfl

theorem look_realm_bind {id : ObjectId} {f : RealmData → RealmData}
    {row : Resource × RealmData → InPlace α} {change : Store → Except Refusal (α × Store)}
    (rest : ∀ r data, row (r, data) s = ended s (change
      { s with resources := s.resources.put id { r with kind := .realm (f data) } })) :
    (look (fun s => realm s id) >>= row) s = ended s (s.updateRealm id f >>= change) := by
  rw [updateRealm_eq]
  rcases found : realm s id with why | ⟨r, data⟩
  · rw [look_bind_error found]
    rfl
  · rw [look_bind_ok found]
    exact rest r data

theorem createUser_eq (id : ObjectId) (now : Timestamp) (realmId : ObjectId) (login : UserId)
    (name passwordHash : String) :
    createUser id now realmId login name passwordHash s =
      ended s (s.createUser id now realmId login name passwordHash) := by
  unfold Store.createUser
  rcases free : s.logins.get? login with _ | taken
  · refine (look_bind_ok (a := ()) (by simp [free])).trans ?_
    refine look_realm_bind fun r data => ?_
    rfl
  · exact look_bind_error (by simp [free])

theorem createGroup_eq (id : ObjectId) (now : Timestamp) (realmId : ObjectId) (name : String)
    (description : Option String) :
    createGroup id now realmId name description s =
      ended s (s.createGroup id now realmId name description) := by
  refine look_realm_bind fun r data => ?_
  rfl

theorem join_eq {id groupId : ObjectId} {u : User} (hu : s.parties.get? id = some (.user u)) :
    join id u groupId s = .ok ()
      { s with
        parties := s.parties.put id
          (.user { u with groupIds := ObjectId.append u.groupIds groupId }) } := by
  unfold join ObjectId.append
  split
  · rw [Shelf.put_of_get? hu]
    rfl
  · rfl

theorem enlist_eq {id userObject : ObjectId} {g : Group}
    (hg : s.parties.get? id = some (.group g)) :
    enlist id (.group g) userObject s = .ok ()
      { s with
        parties := s.parties.put id
          (.group { g with userIds := ObjectId.append g.userIds userObject }) } := by
  unfold enlist ObjectId.append
  simp only
  split
  · rw [Shelf.put_of_get? hg]
    rfl
  · rfl

def alone (x : Except Refusal Store) : Except Refusal (Unit × Store) := (fun t => ((), t)) <$> x

/-- The group is found again after the user was put back, since it is not that user. -/
theorem addUserToGroup_eq (userObject groupId : ObjectId) :
    addUserToGroup userObject groupId s =
      ended s (alone (s.addUserToGroup userObject groupId)) := by
  unfold alone Store.addUserToGroup
  rw [map_bind]
  refine look_bind fun g found => ?_
  have hg := Change.group_eq_ok found
  rcases foundUser : s.party userObject with why | u | g'
  · exact look_bind_error (by rw [candidate, foundUser]; rfl)
  · refine (look_bind_ok (a := u) (by rw [candidate, foundUser]; rfl)).trans ?_
    have hu := found_eq_ok.1 foundUser
    -- the one look-up after a write: it finds the group as before
    have hg' := Change.group_stays hu hg (.user
      { u with groupIds := ObjectId.append u.groupIds groupId })
    by_cases home : u.info.realmId = g.info.realmId
    · refine (look_bind_ok (a := ()) (by simp [home])).trans ?_
      refine (bind_ok (join_eq hu)).trans ?_
      refine (look_bind_ok (found_eq_ok.2 hg')).trans ?_
      rw [enlist_eq hg']
      simp [bind, Except.bind, home, ended, Functor.map, Except.map, pure, Except.pure]
    · refine (look_bind_error (by simp [home]; rfl)).trans ?_
      simp [bind, Except.bind, home, ended, Functor.map, Except.map]
  · exact look_bind_error (by rw [candidate, foundUser]; rfl)

theorem recordAttempt_eq (userObject : ObjectId) (attempt : LoginAttempt) :
    recordAttempt userObject attempt s = ended s (alone (s.recordAttempt userObject attempt)) := by
  unfold alone Store.recordAttempt
  rw [map_bind]
  refine look_bind fun p _ => ?_
  cases p with
  | user u => rfl
  | group g => rfl

theorem updateAccess_eq (id resourceId partyId : ObjectId) (f : Mask → Mask) :
    updateAccess id resourceId partyId f s =
      ended s (s.updateAccess id resourceId partyId f) := by
  refine look_bind fun r hr => ?_
  refine look_bind fun p hp => ?_
  rcases held : s.entryFor? resourceId partyId with _ | e
  · refine (look_bind_ok (a := none) (by rw [held])).trans ?_
    refine (look_bind_ok hr).trans ?_
    refine (bind_ok (putResource_eq resourceId (r.attach id))).trans ?_
    refine (look_bind_ok hp).trans ?_
    rfl
  · refine (look_bind_ok (a := some e) (by rw [held])).trans ?_
    rfl

theorem detachResource_eq (id k : ObjectId) :
    detachResource id k s = .ok ()
      { s with
        resources := match s.resources.get? id with
          | some r => s.resources.put id (r.detach k)
          | none => s.resources } := by
  refine (look_bind_ok (a := s.resources.get? id) (by rfl)).trans ?_
  cases s.resources.get? id <;> rfl

theorem detachParty_eq (id k : ObjectId) :
    detachParty id k s = .ok ()
      { s with
        parties := match s.parties.get? id with
          | some p => s.parties.put id (p.detach k)
          | none => s.parties } := by
  refine (look_bind_ok (a := s.parties.get? id) (by rfl)).trans ?_
  cases s.parties.get? id <;> rfl

theorem deleteAccess_eq (resourceId partyId : ObjectId) :
    deleteAccess resourceId partyId s = ended s (alone (s.deleteAccess resourceId partyId)) := by
  unfold alone Store.deleteAccess
  rcases held : s.entryFor? resourceId partyId with _ | e
  · exact look_bind_error (by rw [held]; rfl)
  · refine (look_bind_ok (a := e) (by rw [held]; rfl)).trans ?_
    refine (bind_ok (eraseEntry_eq e.id)).trans ?_
    refine (bind_ok (detachResource_eq resourceId e.id)).trans ?_
    exact detachParty_eq partyId e.id

/-- Only how a row ends matters for the tables. -/
theorem discard_eq {row : InPlace α} {x : Except Refusal (α × Store)} (h : row s = ended s x) :
    discard row s = ended s (alone (x.map Prod.snd)) := by
  show EStateM.map _ row s = _
  rw [EStateM.map, h]
  cases x <;> rfl

theorem ended_eq_ok {x : Except Refusal Store} {t : Store} :
    ended s (alone x) = .ok () t ↔ x = .ok t := by
  cases x with
  | error why =>
    constructor
    · intro h
      cases h
    · intro h
      cases h
  | ok t' =>
    constructor
    · intro h
      cases h
      rfl
    · intro h
      cases h
      rfl

theorem ended_eq_error {x : Except Refusal Store} {halt : Halt} {t : Store} :
    ended s (alone x) = .error halt t ↔ t = s ∧ ∃ why, halt = .refused why ∧ x = .error why := by
  cases x with
  | error why =>
    constructor
    · intro h
      cases h
      exact ⟨rfl, why, rfl, rfl⟩
    · rintro ⟨rfl, why', rfl, h⟩
      cases h
      rfl
  | ok t' =>
    constructor
    · intro h
      cases h
    · rintro ⟨-, why, -, h⟩
      cases h

end InPlace

namespace Change

variable {s t : Store}

/-- A change as a row of look-ups and writes. -/
def inPlace : Change → InPlace Unit
  | createRealm id now name description => discard (InPlace.createRealm id now name description)
  | createRepository id now realmId name description =>
    discard (InPlace.createRepository id now realmId name description)
  | createResource id now parentId name description kind =>
    discard (InPlace.createResource id now parentId name description kind)
  | createUser id now realmId login name passwordHash =>
    discard (InPlace.createUser id now realmId login name passwordHash)
  | createGroup id now realmId name description =>
    discard (InPlace.createGroup id now realmId name description)
  | addUserToGroup userObject groupId => InPlace.addUserToGroup userObject groupId
  | setAccess id resourceId partyId mask =>
    discard (InPlace.setAccess id resourceId partyId mask)
  | addAccess id resourceId partyId mask =>
    discard (InPlace.addAccess id resourceId partyId mask)
  | deleteAccess resourceId partyId => InPlace.deleteAccess resourceId partyId
  | recordAttempt userObject attempt => InPlace.recordAttempt userObject attempt

open InPlace in
/-- A row does what the change in one go does. -/
theorem inPlace_eq (own : s.resources.Keyed Resource.id) (c : Change) :
    c.inPlace s = ended s (alone (c.perform s)) := by
  cases c with
  | createRealm => exact discard_eq (createRealm_eq ..)
  | createRepository => exact discard_eq (createResource_eq own ..)
  | createResource => exact discard_eq (createResource_eq own ..)
  | createUser => exact discard_eq (createUser_eq ..)
  | createGroup => exact discard_eq (createGroup_eq ..)
  | addUserToGroup => exact addUserToGroup_eq ..
  | setAccess => exact discard_eq (updateAccess_eq ..)
  | addAccess => exact discard_eq (updateAccess_eq ..)
  | deleteAccess => exact deleteAccess_eq ..
  | recordAttempt => exact recordAttempt_eq ..

/-! ## 3. When a change is carried out -/

/-- What must be stored for a change to be carried out. -/
def Admitted (s : Store) : Change → Prop
  | createRealm _ _ name _ => ∀ i r, s.resources.get? i = some r → r.type = .realm → r.name ≠ name
  | createRepository _ _ realmId _ _ => s.RealmAt realmId
  | createResource _ _ parentId name _ kind =>
    (kind.type = .dockerImage → ImageName.check name = .ok ()) ∧
      ∃ parent, s.resources.get? parentId = some parent ∧
        kind.type.parentType? = some parent.type
  | createUser _ _ realmId login _ _ =>
    (∀ i u, s.parties.get? i = some (.user u) → u.userId ≠ login) ∧ s.RealmAt realmId
  | createGroup _ _ realmId _ _ => s.RealmAt realmId
  | addUserToGroup userObject groupId =>
    ∃ u g, s.parties.get? userObject = some (.user u) ∧
      s.parties.get? groupId = some (.group g) ∧ u.info.realmId = g.info.realmId
  | setAccess _ resourceId partyId _ | addAccess _ resourceId partyId _ =>
    (∃ r, s.resources.get? resourceId = some r) ∧ ∃ p, s.parties.get? partyId = some p
  | deleteAccess resourceId partyId =>
    ∃ k e, s.entries.get? k = some e ∧ e.resourceId = resourceId ∧ e.partyId = partyId
  | recordAttempt userObject _ => ∃ u, s.parties.get? userObject = some (.user u)

theorem Grants.admitted {c : Change} {s : Store} {id resourceId partyId : ObjectId}
    {f : Mask → Mask} (asks : c.Grants id resourceId partyId f) :
    c.Admitted s ↔ (∃ r, s.resources.get? resourceId = some r) ∧
      ∃ p, s.parties.get? partyId = some p := by
  cases asks <;> rfl

end Change

theorem Store.hasRealm_eq_false {s : Store} {name : String} :
    s.hasRealm name = false ↔
      ∀ i r, s.resources.get? i = some r → r.type = .realm → r.name ≠ name := by
  simp only [hasRealm, List.any_eq_false, Shelf.mem_values, Bool.and_eq_true, beq_iff_eq, not_and]
  constructor
  · intro h i r hr
    exact h r ⟨i, hr⟩
  · rintro h r ⟨i, hr⟩
    exact h i r hr

theorem Store.checkName_eq_ok {name : String} {kind : ResourceKind} :
    checkName name kind = .ok () ↔
      (kind.type = .dockerImage → ImageName.check name = .ok ()) := by
  unfold checkName
  split
  · next image => simp [mapError_eq_ok, image]
  · next other => simp [other]

theorem Store.entryFor?_isSome {s : Store} {resourceId partyId : ObjectId} :
    (∃ e, s.entryFor? resourceId partyId = some e) ↔
      ∃ k e, s.entries.get? k = some e ∧ e.resourceId = resourceId ∧ e.partyId = partyId := by
  constructor
  · rintro ⟨e, held⟩
    obtain ⟨stored, connects⟩ := entryFor?_eq_some held
    obtain ⟨k, hk⟩ := Shelf.mem_values.1 stored
    exact ⟨k, e, hk, connects⟩
  · rintro ⟨k, e, hk, rfl, rfl⟩
    have stored : e ∈ s.entries.values := Shelf.mem_values.2 ⟨k, hk⟩
    exact Option.isSome_iff_exists.1 (List.find?_isSome.2 ⟨e, stored, by simp⟩)

theorem Store.RealmAt.updateRealm {s : Store} {id : ObjectId} (h : s.RealmAt id)
    (f : RealmData → RealmData) : ∃ t, s.updateRealm id f = .ok t := by
  obtain ⟨r, home, isRealm⟩ := h
  rcases hk : r.kind with data | _ | _ | _ | _ | _
  case realm =>
    have found : InPlace.realm s id = .ok (r, data) :=
      bind_eq_ok.2 ⟨r, found_eq_ok.2 home, by rw [hk]; rfl⟩
    exact ⟨_, by rw [InPlace.updateRealm_eq, found]; rfl⟩
  all_goals
    rw [Resource.type, hk] at isRealm
    cases isRealm

theorem Store.Connected.login_free {s : Store} (h : s.Connected) {login : UserId} :
    s.logins.get? login = none ↔
      ∀ i u, s.parties.get? i = some (.user u) → u.userId ≠ login := by
  constructor
  · intro free i u hu named
    have taken := h.login_iff.2 ⟨u, hu, named⟩
    rw [free] at taken
    cases taken
  · intro nobody
    rcases taken : s.logins.get? login with _ | i
    · rfl
    · obtain ⟨u, hu, named⟩ := h.login_iff.1 taken
      exact absurd named (nobody i u hu)

namespace Change

variable {c : Change} {s t : Store}

theorem Effect.admitted (h : s.Connected) (he : c.Effect s t) : c.Admitted s := by
  induction he with
  | realm free => exact Store.hasRealm_eq_false.1 free
  | resource named above fits _ => exact ⟨Store.checkName_eq_ok.1 named, _, above, fits⟩
  | repository _ ih =>
    obtain ⟨-, parent, above, fits⟩ := ih
    exact ⟨parent, above, (Option.some.inj fits).symm⟩
  | user free home isRealm => exact ⟨h.login_free.1 free, .of_kind home isRealm⟩
  | group home isRealm => exact .of_kind home isRealm
  | member hu hg home => exact ⟨_, _, hu, hg, home⟩
  | remask asks hr hp _ => exact asks.admitted.2 ⟨⟨_, hr⟩, _, hp⟩
  | grant asks hr hp _ => exact asks.admitted.2 ⟨⟨_, hr⟩, _, hp⟩
  | revoke held => exact Store.entryFor?_isSome.1 ⟨_, held⟩
  | attempt hu => exact ⟨_, hu⟩

theorem createResource_performs {id parentId : ObjectId} {now : Timestamp} {name : String}
    {description : Option String} {kind : ResourceKind}
    (h : (createResource id now parentId name description kind).Admitted s) :
    ∃ x, s.createResource id now parentId name description kind = .ok x := by
  obtain ⟨named, parent, above, fits⟩ := h
  have made : Resource.child id now parent name description kind =
      .ok ⟨id, name, description, now, some parent.id, [], kind⟩ :=
    Resource.child_eq_ok.2 ⟨fits, rfl⟩
  exact ⟨_, bind_eq_ok.2 ⟨(), Store.checkName_eq_ok.2 named,
    bind_eq_ok.2 ⟨parent, found_eq_ok.2 above, bind_eq_ok.2 ⟨_, mapError_eq_ok.2 made, rfl⟩⟩⟩⟩

theorem updateAccess_performs {id resourceId partyId : ObjectId} {f : Mask → Mask}
    (hr : ∃ r, s.resources.get? resourceId = some r) (hp : ∃ p, s.parties.get? partyId = some p) :
    ∃ x, s.updateAccess id resourceId partyId f = .ok x := by
  obtain ⟨r, hr⟩ := hr
  obtain ⟨p, hp⟩ := hp
  unfold Store.updateAccess
  rw [Store.resource, hr, Store.party, hp]
  rcases held : s.entryFor? resourceId partyId with _ | e
  · exact ⟨_, rfl⟩
  · exact ⟨_, rfl⟩

theorem performs_of_admitted (h : s.Connected) (admitted : c.Admitted s) :
    ∃ t, c.perform s = .ok t := by
  have without {α : Type} {x : Except Refusal (α × Store)} (hx : ∃ y, x = .ok y) :
      ∃ t, x.map Prod.snd = .ok t := by
    obtain ⟨y, rfl⟩ := hx
    exact ⟨y.2, rfl⟩
  cases c with
  | createRealm id now name description =>
    refine without ?_
    rw [Store.createRealm, Store.hasRealm_eq_false.2 admitted]
    exact ⟨_, rfl⟩
  | createRepository id now realmId name description =>
    obtain ⟨r, home, isRealm⟩ := admitted
    refine without (createResource_performs ⟨?_, r, home, ?_⟩)
    · intro image
      cases image
    · rw [isRealm]
      rfl
  | createResource id now parentId name description kind =>
    exact without (createResource_performs admitted)
  | createUser id now realmId login name passwordHash =>
    obtain ⟨nobody, home⟩ := admitted
    obtain ⟨t, updated⟩ := home.updateRealm fun d => { d with userIds := d.userIds ++ [id] }
    refine without ?_
    rw [Store.createUser, h.login_free.2 nobody]
    exact ⟨_, bind_eq_ok.2 ⟨t, updated, rfl⟩⟩
  | createGroup id now realmId name description =>
    obtain ⟨t, updated⟩ := Store.RealmAt.updateRealm admitted fun d =>
      { d with groupIds := d.groupIds ++ [id] }
    exact without ⟨_, bind_eq_ok.2 ⟨t, updated, rfl⟩⟩
  | addUserToGroup userObject groupId =>
    obtain ⟨u, g, hu, hg, home⟩ := admitted
    have isGroup : s.group groupId = .ok g := bind_eq_ok.2 ⟨_, found_eq_ok.2 hg, rfl⟩
    have same : ¬u.info.realmId ≠ g.info.realmId := not_not_intro home
    exact ⟨_, bind_eq_ok.2 ⟨g, isGroup, bind_eq_ok.2 ⟨_, found_eq_ok.2 hu, if_neg same⟩⟩⟩
  | setAccess => exact without (updateAccess_performs admitted.1 admitted.2)
  | addAccess => exact without (updateAccess_performs admitted.1 admitted.2)
  | deleteAccess resourceId partyId =>
    obtain ⟨e, held⟩ := Store.entryFor?_isSome.2 admitted
    exact ⟨_, by rw [perform, Store.deleteAccess, held]⟩
  | recordAttempt userObject attempt =>
    obtain ⟨u, hu⟩ := admitted
    exact ⟨_, bind_eq_ok.2 ⟨_, found_eq_ok.2 hu, rfl⟩⟩

/-- A change is carried out exactly when it is admitted. -/
theorem admitted_iff (h : s.Connected) : c.Admitted s ↔ ∃ t, c.perform s = .ok t :=
  ⟨performs_of_admitted h, fun ⟨_, performed⟩ => (effect_of_perform performed).admitted h⟩

end Change

/-- In every store that can be reached, and whatever is asked for, a row of look-ups and writes
    comes to its end exactly when the change is admitted, and the store is then as the change
    in one go makes it.  If the row ends early, then because that change is refused, never for
    want of a child list, and no table is altered.  No realm is ever made under a parent. -/
theorem changes_atomic {s : Store} (reached : Reached s) (c : Change) :
    ((∃ t, c.inPlace s = .ok () t) ↔ c.Admitted s) ∧
    (∀ t, c.inPlace s = .ok () t ↔ c.perform s = .ok t) ∧
    (∀ halt t, c.inPlace s = .error halt t →
      t = s ∧ halt ≠ .noChildList ∧ ∃ why, halt = .refused why ∧ c.perform s = .error why) ∧
    ∀ id now parentId name description data, c =
      .createResource id now parentId name description (.realm data) → ¬ c.Admitted s := by
  have sound := reached.sound
  have row := Change.inPlace_eq sound.resources c
  refine ⟨?_, ?_, ?_, ?_⟩
  · rw [row, Change.admitted_iff sound.connected]
    exact exists_congr fun t => InPlace.ended_eq_ok
  · intro t
    rw [row]
    exact InPlace.ended_eq_ok
  · intro halt t ended
    rw [row] at ended
    obtain ⟨same, why, rfl, refused⟩ := InPlace.ended_eq_error.1 ended
    exact ⟨same, nofun, why, rfl, refused⟩
  · rintro id now parentId name description data rfl ⟨-, parent, -, fits⟩
    cases fits

/-- Groups can be made in a realm, and not in a repository. -/
theorem changes_atomic_sample :
    let s := Store.after Change.sample
    Reached s ∧ (∃ t, (Change.createGroup ⟨"ops"⟩ ⟨4⟩ ⟨"realm"⟩ "ops" none).inPlace s = .ok () t) ∧
      ∃ halt, (Change.createGroup ⟨"ops"⟩ ⟨4⟩ ⟨"repo"⟩ "ops" none).inPlace s = .error halt s := by
  intro s
  have reached : Reached s := reached_after Change.sample
  obtain ⟨inRealm, -⟩ := changes_atomic reached (.createGroup ⟨"ops"⟩ ⟨4⟩ ⟨"realm"⟩ "ops" none)
  obtain ⟨inRepository, -, unaltered, -⟩ :=
    changes_atomic reached (.createGroup ⟨"ops"⟩ ⟨4⟩ ⟨"repo"⟩ "ops" none)
  refine ⟨reached, inRealm.2 ⟨_, rfl, rfl⟩, ?_⟩
  rcases ended : (Change.createGroup ⟨"ops"⟩ ⟨4⟩ ⟨"repo"⟩ "ops" none).inPlace s with
    ⟨_, t⟩ | ⟨halt, t⟩
  · obtain ⟨r, found, isRealm⟩ := inRepository.1 ⟨t, ended⟩
    cases found
    cases isRealm
  · obtain ⟨rfl, -⟩ := unaltered halt t ended
    exact ⟨halt, rfl⟩

end AccessControl
