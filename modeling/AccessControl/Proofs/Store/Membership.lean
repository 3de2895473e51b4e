/-
  AccessControl/Proofs/Store/Membership.lean
  ==========================================
  **Logins, realms and memberships.**

  A membership is kept on both sides: the user lists the group, and the group lists the user.
  The two lists are written one after the other, each only if the entry is not in it yet.
  Each side is a row of ids to which deeds append, and which nothing else changes
  (`Kept`), so that it is the row of what was appended, every id at its first place
  (`Run.row_eq`).  Both sides are rows of the same deeds.  That they agree needs no
  comparison of one with the other.

  ## Main definitions

  * `Deed.joined?`, `Deed.admitted?`: a membership, seen from the user and from the group;
  * `Kept`: a row of ids that only such deeds append to.

  ## Main statements

  * `Run.row_eq`: a row that is kept, from the history;
  * `kept_groups`, `kept_members`: both sides of a membership are kept;
  * `Run.neighbours`: users join groups of their own realm;
  * `memberships_consistent`: logins, realms and memberships of every store that can be
    reached.
-/
import AccessControl.Proofs.Store.History
import AccessControl.Proofs.Store.Rosters

namespace AccessControl

/-! ## 1. Rows of ids, each at its first place -/

theorem ObjectId.append_eraseDups (ids : List ObjectId) (k : ObjectId) :
    ObjectId.append ids.eraseDups k = (ids ++ [k]).eraseDups := by
  rw [List.eraseDups_append, append]
  by_cases hk : k ∈ ids <;> simp [hk, List.removeAll, List.eraseDups_cons]

/-- A row of ids of every party, to which deeds append.  Nothing else changes it, and it is
    empty for a new party. -/
def Kept (row : Party → List ObjectId) (adds? : ObjectId → Deed → Option ObjectId) : Prop :=
  ∀ {w v : Stage} {d : Deed}, w.Tidy → Step w d v → ∀ i,
    (adds? i d = none ∧ v.store.parties.view row i = w.store.parties.view row i) ∨
    (adds? i d = none ∧ w.store.parties.get? i = none ∧
      v.store.parties.view row i = some []) ∨
    ∃ ids k, adds? i d = some k ∧ w.store.parties.view row i = some ids ∧
      v.store.parties.view row i = some (ObjectId.append ids k)

/-- A row that is kept has what was appended to it, in the order in which each id was
    appended first. -/
theorem Run.row_eq {row : Party → List ObjectId} {adds? : ObjectId → Deed → Option ObjectId}
    (kept : Kept row adds?) {v : Stage} {log : List Deed} (h : Run .start log v) (i : ObjectId) :
    (v.store.parties.view row i).getD [] = (log.filterMap (adds? i)).eraseDups ∧
      ((v.store.parties.view row i).getD []).Nodup := by
  induction h with
  | stay => exact ⟨rfl, List.nodup_nil⟩
  | more first last ih =>
    rw [List.filterMap_append, List.filterMap_cons, List.filterMap_nil]
    rcases kept (first.tidy .start) last i with
      ⟨nothing, same⟩ | ⟨nothing, absent, alone⟩ | ⟨ids, k, added, before, after⟩
    · rw [nothing, same, List.append_nil]
      exact ih
    · -- nothing was appended to the row of a party that was not there
      rw [Shelf.view, absent] at ih
      rw [nothing, alone, List.append_nil]
      exact ih
    · rw [before] at ih
      rw [added, after, ← ObjectId.append_eraseDups, ← ih.1]
      exact ⟨rfl, ObjectId.nodup_append ih.2 k⟩

/-! ## 2. The two sides of a membership -/

def Party.memberIds : Party → List ObjectId
  | .user _ => []
  | .group g => g.userIds

theorem Party.memberIds_withInfo (p : Party) (info : PartyInfo) :
    (p.withInfo info).memberIds = p.memberIds := by cases p <;> rfl

namespace Deed

/-- The group that a party joined by the deed. -/
def joined? (i : ObjectId) : Deed → Option ObjectId
  | ⟨.addUserToGroup i' k, true⟩ => if i' = i then some k else none
  | _ => none

/-- The party that a group admitted by the deed. -/
def admitted? (k : ObjectId) : Deed → Option ObjectId
  | ⟨.addUserToGroup i k', true⟩ => if k' = k then some i else none
  | _ => none

theorem joined?_eq_some {d : Deed} {i k : ObjectId} :
    d.joined? i = some k ↔ d = ⟨.addUserToGroup i k, true⟩ := by
  obtain ⟨c, _ | _⟩ := d <;> cases c <;> simp [joined?, eq_comm]

theorem admitted?_eq_some {d : Deed} {i k : ObjectId} :
    d.admitted? k = some i ↔ d = ⟨.addUserToGroup i k, true⟩ := by
  obtain ⟨c, _ | _⟩ := d <;> cases c <;> simp [admitted?, eq_comm, and_comm]

theorem joined?_eq_none {c : Change} {done : Bool} {i : ObjectId}
    (h : ∀ k, c ≠ .addUserToGroup i k) : joined? i ⟨c, done⟩ = none := by
  rw [Option.eq_none_iff_forall_ne_some]
  intro k joined
  exact h k (congrArg Deed.change (joined?_eq_some.1 joined))

theorem admitted?_eq_none {c : Change} {done : Bool} {k : ObjectId}
    (h : ∀ i, c ≠ .addUserToGroup i k) : admitted? k ⟨c, done⟩ = none := by
  rw [Option.eq_none_iff_forall_ne_some]
  intro i admitted
  exact h i (congrArg Deed.change (admitted?_eq_some.1 admitted))

end Deed

theorem Change.ne_addUserToGroup_of_newId? {c : Change} {s : Store} {id : ObjectId}
    (new : c.newId? s = some id) (i k : ObjectId) : c ≠ addUserToGroup i k := by
  rintro rfl
  cases new

namespace Change.Effect

variable {c : Change} {s t : Store}

theorem members_lasting (he : c.Effect s t) (k : ObjectId) :
    t.parties.view Party.memberIds k = s.parties.view Party.memberIds k ∧
        (∀ i, c ≠ addUserToGroup i k) ∨
      c.newId? s = some k ∧ t.parties.view Party.memberIds k = some [] ∨
      ∃ i members, c = addUserToGroup i k ∧
        s.parties.view Party.memberIds k = some members ∧
        t.parties.view Party.memberIds k = some (ObjectId.append members i) := by
  induction he with
  | realm => exact Or.inl ⟨rfl, fun _ => nofun⟩
  | resource => exact Or.inl ⟨rfl, fun _ => nofun⟩
  | repository _ ih =>
    rcases ih with ⟨same, _⟩ | new | ⟨_, _, asked, _⟩
    · exact Or.inl ⟨same, fun _ => nofun⟩
    · exact Or.inr (Or.inl new)
    · cases asked
  | @user id =>
    by_cases new : k = id
    · subst new
      exact Or.inr (Or.inl ⟨rfl, Shelf.view_of_get? (Shelf.get?_put_self _ _ _)⟩)
    · exact Or.inl ⟨(Shelf.view_put _ _ _).trans (if_neg new), fun _ => nofun⟩
  | @group id =>
    by_cases new : k = id
    · subst new
      exact Or.inr (Or.inl ⟨rfl, Shelf.view_of_get? (Shelf.get?_put_self _ _ _)⟩)
    · exact Or.inl ⟨(Shelf.view_put _ _ _).trans (if_neg new), fun _ => nofun⟩
  | @member userObject groupId u g hu hg _ =>
    -- the user that is put back lists no members, as before
    have before : (s.parties.put userObject
        (.user { u with groupIds := ObjectId.append u.groupIds groupId })).view Party.memberIds =
          s.parties.view Party.memberIds := by
      refine Shelf.view_put_same hu ?_
      rfl
    by_cases admits : k = groupId
    · subst admits
      refine Or.inr (Or.inr ⟨userObject, g.userIds, rfl, Shelf.view_of_get? hg, ?_⟩)
      exact (Shelf.view_put _ _ _).trans (if_pos rfl)
    · refine Or.inl ⟨((Shelf.view_put _ _ _).trans (if_neg admits)).trans (congrFun before k), ?_⟩
      rintro i ⟨⟩
      exact admits rfl
  | remask asks => exact Or.inl ⟨rfl, fun _ same => nomatch same ▸ asks⟩
  | grant asks _ hp =>
    refine Or.inl ⟨congrFun (Shelf.view_put_same hp (Party.memberIds_withInfo _ _)) k, ?_⟩
    exact fun _ same => nomatch same ▸ asks
  | @revoke _ partyId =>
    refine Or.inl ⟨?_, fun _ => nofun⟩
    rcases found : s.parties.get? partyId with _ | p
    · rfl
    · exact congrFun (Shelf.view_put_same found (Party.memberIds_withInfo _ _)) k
  | attempt hu =>
    refine Or.inl ⟨congrFun (Shelf.view_put_same hu ?_) k, fun _ => nofun⟩
    rfl

end Change.Effect

/-- The groups of a party are those that it joined. -/
theorem kept_groups : Kept Party.groupIds Deed.joined? := by
  intro w v d tidy hs i
  cases hs with
  | @refused c =>
    refine Or.inl ⟨?_, rfl⟩
    cases c <;> rfl
  | @done c t performed fresh =>
    rcases (Change.effect_of_perform performed).groups_lasting i with
      ⟨same, other⟩ | ⟨new, alone⟩ | ⟨k, _, ids, rfl, _, before, after⟩
    · exact Or.inl ⟨Deed.joined?_eq_none other, same⟩
    · refine Or.inr (Or.inl ⟨Deed.joined?_eq_none ?_, (tidy.unused (fresh i new)).2.1, alone⟩)
      exact Change.ne_addUserToGroup_of_newId? new i
    · exact Or.inr (Or.inr ⟨ids, k, Deed.joined?_eq_some.2 rfl, before, after⟩)

/-- The members of a group are those that it admitted. -/
theorem kept_members : Kept Party.memberIds Deed.admitted? := by
  intro w v d tidy hs k
  cases hs with
  | @refused c =>
    refine Or.inl ⟨?_, rfl⟩
    cases c <;> rfl
  | @done c t performed fresh =>
    rcases (Change.effect_of_perform performed).members_lasting k with
      ⟨same, other⟩ | ⟨new, alone⟩ | ⟨i, ids, rfl, before, after⟩
    · exact Or.inl ⟨Deed.admitted?_eq_none other, same⟩
    · refine Or.inr (Or.inl ⟨Deed.admitted?_eq_none ?_, (tidy.unused (fresh k new)).2.1, alone⟩)
      exact fun i => Change.ne_addUserToGroup_of_newId? new i k
    · exact Or.inr (Or.inr ⟨ids, i, Deed.admitted?_eq_some.2 rfl, before, after⟩)

/-! ## 3. Histories -/

section Histories

variable {v : Stage} {log : List Deed}

theorem Run.groupIds_eq (h : Run .start log v) {i : ObjectId} {u : User}
    (hu : v.store.parties.get? i = some (.user u)) :
    u.groupIds = (log.filterMap (Deed.joined? i)).eraseDups ∧ u.groupIds.Nodup := by
  have row := h.row_eq kept_groups i
  rw [Shelf.view_of_get? hu] at row
  exact row

theorem Run.userIds_eq (h : Run .start log v) {k : ObjectId} {g : Group}
    (hg : v.store.parties.get? k = some (.group g)) :
    g.userIds = (log.filterMap (Deed.admitted? k)).eraseDups ∧ g.userIds.Nodup := by
  have row := h.row_eq kept_members k
  rw [Shelf.view_of_get? hg] at row
  exact row

theorem Run.mem_groupIds (h : Run .start log v) {i k : ObjectId} {u : User}
    (hu : v.store.parties.get? i = some (.user u)) :
    k ∈ u.groupIds ↔ ⟨.addUserToGroup i k, true⟩ ∈ log := by
  simp [(h.groupIds_eq hu).1, Deed.joined?_eq_some]

theorem Run.mem_userIds (h : Run .start log v) {i k : ObjectId} {g : Group}
    (hg : v.store.parties.get? k = some (.group g)) :
    i ∈ g.userIds ↔ ⟨.addUserToGroup i k, true⟩ ∈ log := by
  simp [(h.userIds_eq hg).1, Deed.admitted?_eq_some]

def Store.Neighbours (s : Store) (i k : ObjectId) : Prop :=
  ∃ u g, s.parties.get? i = some (.user u) ∧ s.parties.get? k = some (.group g) ∧
    u.info.realmId = g.info.realmId

theorem Step.party_stays {w v : Stage} {d : Deed} (tidy : w.Tidy) (hs : Step w d v)
    {i : ObjectId} {p : Party} (hp : w.store.parties.get? i = some p) :
    ∃ q, v.store.parties.get? i = some q ∧ q.type = p.type ∧
      q.info.realmId = p.info.realmId := by
  obtain ⟨q, hq, same⟩ := hs.party_lasts tidy hp
  obtain ⟨_, realm, type⟩ := Party.eq_of_lasting same
  exact ⟨q, hq, type, realm⟩

theorem Step.neighbours_stay {w v : Stage} {d : Deed} (tidy : w.Tidy) (hs : Step w d v)
    {i k : ObjectId} (before : w.store.Neighbours i k) : v.store.Neighbours i k := by
  obtain ⟨u, g, hu, hg, home⟩ := before
  obtain ⟨p, hp, isUser, realm⟩ := hs.party_stays tidy hu
  obtain ⟨q, hq, isGroup, realm'⟩ := hs.party_stays tidy hg
  cases p with
  | group _ => cases isUser
  | user u' =>
    cases q with
    | user _ => cases isGroup
    | group g' => exact ⟨u', g', hp, hq, realm.trans (home.trans realm'.symm)⟩

theorem Step.neighbours_of_joined {w v : Stage} {i k : ObjectId} (tidy : w.Tidy)
    (hs : Step w ⟨.addUserToGroup i k, true⟩ v) : v.store.Neighbours i k := by
  have before : w.store.Neighbours i k := by
    cases hs with
    | done performed =>
      cases Change.effect_of_perform performed with
      | member hu hg home => exact ⟨_, _, hu, hg, home⟩
      | remask asks => cases asks
      | grant asks => cases asks
  exact hs.neighbours_stay tidy before

/-- Users join groups of their own realm, and nothing but users joins a group. -/
theorem Run.neighbours (h : Run .start log v) {i k : ObjectId}
    (joined : ⟨.addUserToGroup i k, true⟩ ∈ log) : v.store.Neighbours i k :=
  h.of_mem (P := fun x => x.store.Neighbours i k) .start joined
    (fun tidy hs => hs.neighbours_of_joined tidy)
    fun tidy hs before => hs.neighbours_stay tidy before

end Histories

/-! ## 4. Stores that can be reached -/

theorem Store.Connected.login_iff {s : Store} (h : s.Connected) {login : UserId} {i : ObjectId} :
    s.logins.get? login = some i ↔
      ∃ u, s.parties.get? i = some (.user u) ∧ u.userId = login := by
  rw [h.known, Shelf.view_eq_some]
  constructor
  · rintro ⟨p, hp, named⟩
    cases p with
    | group _ => cases named
    | user u => exact ⟨u, hp, Option.some.inj named⟩
  · rintro ⟨u, hu, rfl⟩
    exact ⟨_, hu, rfl⟩

/-- In every store that can be reached, the logins lead to exactly the users that have them,
    one login to each.  Every party stands under its own id and belongs to a stored realm, and
    each realm lists its users and its groups, each once, in the order in which they were made.
    A user lists the groups that it was added to, each once, in the order in which it was first
    added to them.  The user and its group are of the same realm and list each other, and all
    that a group lists are users. -/
theorem memberships_consistent {v : Stage} {log : List Deed} (run : Run .start log v) :
    ((∀ login i, v.store.logins.get? login = some i ↔
        ∃ u, v.store.parties.get? i = some (.user u) ∧ u.userId = login) ∧
      ∀ login login' i, v.store.logins.get? login = some i →
        v.store.logins.get? login' = some i → login = login') ∧
    (∀ i p, v.store.parties.get? i = some p → p.id = i ∧
      ∃ realm data, v.store.resources.get? p.info.realmId = some realm ∧
        realm.kind = .realm data) ∧
    (∀ k realm data, v.store.resources.get? k = some realm → realm.kind = .realm data →
      data.userIds = enrolled (newcomers log) k .user ∧
      data.groupIds = enrolled (newcomers log) k .group ∧
      ∀ type, (enrolled (newcomers log) k type).Nodup ∧
        ∀ i, i ∈ enrolled (newcomers log) k type ↔
          ∃ p, v.store.parties.get? i = some p ∧ p.info.realmId = k ∧ p.type = type) ∧
    (∀ i u, v.store.parties.get? i = some (.user u) →
      u.groupIds = (log.filterMap (Deed.joined? i)).eraseDups ∧ u.groupIds.Nodup ∧
      ∀ k ∈ u.groupIds, ∃ g, v.store.parties.get? k = some (.group g) ∧
        g.info.realmId = u.info.realmId ∧ i ∈ g.userIds) ∧
    ∀ k g, v.store.parties.get? k = some (.group g) → g.userIds.Nodup ∧
      ∀ i ∈ g.userIds, ∃ u, v.store.parties.get? i = some (.user u) ∧
        u.info.realmId = g.info.realmId ∧ k ∈ u.groupIds := by
  have sound := run.sound
  have enrols := run.enrols
  have login_iff : ∀ login i, v.store.logins.get? login = some i ↔
      ∃ u, v.store.parties.get? i = some (.user u) ∧ u.userId = login :=
    fun login i => sound.connected.login_iff
  refine ⟨⟨login_iff, ?_⟩, ?_, ?_, ?_, ?_⟩
  · intro login login' i hi hi'
    obtain ⟨u, hu, rfl⟩ := (login_iff login i).1 hi
    obtain ⟨u', hu', rfl⟩ := (login_iff login' i).1 hi'
    rw [hu] at hu'
    cases hu'
    rfl
  · intro i p hp
    obtain ⟨realm, hrealm, isRealm⟩ := enrols.home hp
    refine ⟨sound.parties i p hp, realm, ?_⟩
    rcases hk : realm.kind with data | _ | _ | _ | _ | _
    case realm => exact ⟨data, hrealm, rfl⟩
    all_goals
      rw [Resource.type, hk] at isRealm
      cases isRealm
  · intro k realm data hrealm isRealm
    have lists := enrols.rosters k realm.roster (Shelf.view_of_get? hrealm)
    rw [Resource.roster, isRealm] at lists
    refine ⟨congrFun lists .user, congrFun lists .group, fun type => ?_⟩
    exact ⟨enrols.nodup_enrolled k type, fun i => enrols.mem_enrolled⟩
  · intro i u hu
    obtain ⟨order, nodup⟩ := run.groupIds_eq hu
    refine ⟨order, nodup, fun k hk => ?_⟩
    have joined := (run.mem_groupIds hu).1 hk
    obtain ⟨u', g, hu', hg, home⟩ := run.neighbours joined
    rw [hu] at hu'
    cases hu'
    exact ⟨g, hg, home.symm, (run.mem_userIds hg).2 joined⟩
  · intro k g hg
    refine ⟨(run.userIds_eq hg).2, fun i hi => ?_⟩
    have joined := (run.mem_userIds hg).1 hi
    obtain ⟨u, g', hu, hg', home⟩ := run.neighbours joined
    rw [hg] at hg'
    cases hg'
    exact ⟨u, hu, home, (run.mem_groupIds hu).2 joined⟩

/-- Two users and two groups of one realm, and a realm beside it.  One of the users joins a
    group twice and the other group in between, and tries to join what it cannot. -/
def Change.memberships : List Change :=
  [.createRealm ⟨"realm"⟩ ⟨0⟩ "acme" none,
   .createRealm ⟨"other"⟩ ⟨1⟩ "apex" none,
   .createUser ⟨"ann"⟩ ⟨2⟩ ⟨"realm"⟩ ⟨"ann"⟩ "Ann" "",
   .createGroup ⟨"devs"⟩ ⟨3⟩ ⟨"realm"⟩ "devs" none,
   .createGroup ⟨"ops"⟩ ⟨4⟩ ⟨"realm"⟩ "ops" none,
   .createGroup ⟨"far"⟩ ⟨5⟩ ⟨"other"⟩ "far" none,
   .createUser ⟨"bob"⟩ ⟨6⟩ ⟨"realm"⟩ ⟨"bob"⟩ "Bob" "",
   .createUser ⟨"again"⟩ ⟨7⟩ ⟨"realm"⟩ ⟨"bob"⟩ "Bob" "",
   .addUserToGroup ⟨"ann"⟩ ⟨"ops"⟩,
   .addUserToGroup ⟨"ann"⟩ ⟨"far"⟩,
   .addUserToGroup ⟨"ann"⟩ ⟨"devs"⟩,
   .addUserToGroup ⟨"devs"⟩ ⟨"ops"⟩,
   .addUserToGroup ⟨"ann"⟩ ⟨"ops"⟩,
   .addUserToGroup ⟨"bob"⟩ ⟨"ops"⟩]

theorem memberships_consistent_sample :
    ∃ log v, Run .start log v ∧
      (∃ realm data, v.store.resources.get? ⟨"realm"⟩ = some realm ∧ realm.kind = .realm data ∧
        data.userIds = [⟨"ann"⟩, ⟨"bob"⟩] ∧ data.groupIds = [⟨"devs"⟩, ⟨"ops"⟩]) ∧
      ∃ u, v.store.parties.get? ⟨"ann"⟩ = some (.user u) ∧
        u.groupIds = [⟨"ops"⟩, ⟨"devs"⟩] ∧
        ∃ g, v.store.parties.get? ⟨"ops"⟩ = some (.group g) ∧ ⟨"ann"⟩ ∈ g.userIds := by
  have run := Stage.start.run_reach Change.memberships
  obtain ⟨-, housed, rosters, groups, -⟩ := memberships_consistent run
  have stored : ∃ u, (Stage.start.reach Change.memberships).2.store.parties.get? ⟨"ann"⟩ =
      some (.user u) ∧ u.info.realmId = ⟨"realm"⟩ := ⟨_, rfl, rfl⟩
  obtain ⟨u, hu, home⟩ := stored
  obtain ⟨-, realm, data, hrealm, isRealm⟩ := housed _ _ hu
  rw [show (Party.user u).info.realmId = ⟨"realm"⟩ from home] at hrealm
  obtain ⟨users, groupIds, -⟩ := rosters _ realm data hrealm isRealm
  obtain ⟨order, -, mates⟩ := groups _ _ hu
  have inOps : (⟨"ops"⟩ : ObjectId) ∈ u.groupIds := by
    rw [order]
    decide
  obtain ⟨g, hg, -, listed⟩ := mates _ inOps
  refine ⟨_, _, run, ⟨realm, data, hrealm, isRealm, ?_, ?_⟩, u, hu, ?_, g, hg, listed⟩
  · rw [users]
    decide
  · rw [groupIds]
    decide
  · rw [order]
    decide

end AccessControl
