/-
  AccessControl/Proofs/Session/Numbered.lean
  ==========================================
  **No two sessions of a service share an id.**

  The wall clock may stand still, jump, or read something that no word of 64 bits holds.  The
  numbers that are taken from it grow all the same, until the greatest word is reached.  A
  service makes the id of a session from such a number, and the cache knows a session by its id
  alone, so that a number that came twice would hand the session of one user to another.

  A session begins in two steps.  First its number is taken, then it is put into the cache, and
  anything may happen in between, since many requests are served at a time.  The sessions that
  have a number and are not in the cache yet wait.  What carries everything is that the numbers
  that are still to come are above the last one (`Numbered`).  So a session that waits finds its
  place in the cache free, and keeps it for its own user.

  ## Main definitions

  * `Nonce.InRange`: every number that is followed by another is below the greatest word;
  * `CredentialService`, `ServiceTurn`: a service, and what is asked of it;
  * `CredentialService.issued`: the ids that were minted, and for whom;
  * `CredentialService.Numbered`: what holds of a service at work.

  ## Main statements

  * `Nonce.pairwise_run`: numbers grow until they reach the greatest word;
  * `CredentialService.Numbered.step`: one turn;
  * `CredentialService.Numbered.after`: many turns;
  * `ids_stay_apart`: what follows for ids and sessions.
-/
import AccessControl.Gate.Basic
import AccessControl.Proofs.Session.Own
import AccessControl.Proofs.Session.Touches
import AccessControl.Session.Nonce
import Mathlib.Data.List.Nodup

namespace AccessControl

open Digest

/-! ## 1. Numbers -/

namespace Nonce

variable {last n : UInt64} {readings : List UInt64}

theorem toNat_reading (nanos : Int) :
    (reading nanos).toNat = min nanos.toNat (UInt64.size - 1) := by
  have small : min nanos.toNat (UInt64.size - 1) < UInt64.size :=
    Nat.lt_of_le_of_lt (Nat.min_le_right _ _) (by decide)
  exact UInt64.toNat_ofNat_of_lt' small

theorem le_succ (n : UInt64) : n ≤ succ n := by
  by_cases full : n.toNat = UInt64.size - 1
  · rw [succ, if_pos full]
    exact UInt64.le_refl n
  · have room : n.toNat < UInt64.size - 1 := by
      have := n.toNat_lt_size
      omega
    exact UInt64.le_of_lt (lt_succ room)

theorem last_le_next (last now : UInt64) : last ≤ next last now := by
  unfold next
  split
  · exact le_succ last
  · next above =>
    exact UInt64.le_trans (le_succ last) (UInt64.le_of_lt (UInt64.not_le.1 above))

theorem le_of_mem_run (h : n ∈ run last readings) : last ≤ n := by
  induction readings generalizing last with
  | nil => cases h
  | cons now rest ih =>
    rw [run, List.mem_cons] at h
    rcases h with rfl | h
    · exact last_le_next last now
    · exact UInt64.le_trans (last_le_next last now) (ih h)

theorem lt_of_mem_run (room : last.toNat < UInt64.size - 1) (h : n ∈ run last readings) :
    last < n := by
  cases readings with
  | nil => cases h
  | cons now rest =>
    rw [run, List.mem_cons] at h
    rcases h with rfl | h
    · exact lt_next now room
    · exact UInt64.lt_of_lt_of_le (lt_next now room) (le_of_mem_run h)

/-- A number below the greatest word is below all that follow. -/
theorem pairwise_run (last : UInt64) (readings : List UInt64) :
    (last :: run last readings).Pairwise fun m n => m.toNat < UInt64.size - 1 → m < n := by
  induction readings generalizing last with
  | nil => exact List.pairwise_singleton _ _
  | cons now rest ih =>
    refine List.pairwise_cons.2 ⟨?_, ih (next last now)⟩
    intro n hn room
    exact lt_of_mem_run room hn

theorem reading_le_run (last : UInt64) (nanos : List Int) :
    List.Forall₂ (fun t n => min t.toNat (UInt64.size - 1) ≤ n.toNat) nanos
      (run last (nanos.map reading)) := by
  induction nanos generalizing last with
  | nil => exact .nil
  | cons t rest ih =>
    refine .cons ?_ (ih _)
    rw [← toNat_reading]
    exact UInt64.le_iff_toNat_le.1 (le_next last (reading t))

/-- Every number that is followed by another is below the greatest word. -/
def InRange (last : UInt64) (readings : List UInt64) : Prop :=
  ∀ n ∈ (last :: run last readings).dropLast, n.toNat < UInt64.size - 1

theorem inRange_cons {now : UInt64} :
    InRange last (now :: readings) ↔
      last.toNat < UInt64.size - 1 ∧ InRange (next last now) readings := by
  simp [InRange, run]

end Nonce

/-! ## 2. Rows of pairs -/

section Rows

variable {α β : Type} {row : List (α × β)} {p q : α × β}

theorem nodup_fst_concat (distinct : (row.map Prod.fst).Nodup) (new : ∀ b, (p.1, b) ∉ row) :
    ((row ++ [p]).map Prod.fst).Nodup := by
  rw [List.map_append, List.map_singleton, ← List.concat_eq_append, List.nodup_concat]
  refine ⟨?_, distinct⟩
  intro listed
  obtain ⟨⟨a, b⟩, there, same⟩ := List.mem_map.1 listed
  exact new b (same ▸ there)

theorem fst_ne_of_mem_eraseIdx (distinct : (row.map Prod.fst).Nodup) {place : Nat}
    (here : row[place]? = some p) (hq : q ∈ row.eraseIdx place) : q.1 ≠ p.1 := by
  intro same
  obtain ⟨i, apart, there⟩ := List.mem_eraseIdx_iff_getElem?.1 hq
  have hi : (row.map Prod.fst)[i]? = some p.1 := by
    rw [List.getElem?_map, there, Option.map_some, same]
  have hplace : (row.map Prod.fst)[place]? = some p.1 := by
    rw [List.getElem?_map, here, Option.map_some]
  obtain ⟨bound, -⟩ := List.getElem?_eq_some_iff.1 hi
  exact apart ((List.getElem?_inj bound distinct).1 (hi.trans hplace.symm))

end Rows

/-! ## 3. A service at work -/

/-- A service: the last number, the sessions in the cache, and those that have a number and wait
    to be put there. -/
structure CredentialService where
  last : UInt64
  sessions : SessionCache
  waiting : List (UInt64 × Credentials)

inductive ServiceCall where
  | mint
  | create (credentials : Credentials)
  /-- The session at this place among those that wait is put into the cache. -/
  | enter (place : Nat)
  | identify (id : SessionId)
  | invalidate (id : SessionId)
  | clear
  | evict

/-- A call, what the wall clock reads, in nanoseconds since the start of 1970, and the time by
    which the cache tells idle sessions. -/
structure ServiceTurn where
  wall : Int
  time : Duration
  call : ServiceCall

def ServiceTurn.reading? (x : ServiceTurn) : Option UInt64 :=
  match x.call with
  | .mint | .create _ => some (Nonce.reading x.wall)
  | _ => none

def ServiceTurn.readings (turns : List ServiceTurn) : List UInt64 := turns.filterMap reading?

namespace CredentialService

def start (last : UInt64) (sessions : SessionCache) : CredentialService := ⟨last, sessions, []⟩

def step (salt : Salt) (s : CredentialService) (x : ServiceTurn) : CredentialService :=
  let nonce := Nonce.next s.last (Nonce.reading x.wall)
  match x.call with
  | .mint => { s with last := nonce }
  | .create c => { s with last := nonce, waiting := s.waiting ++ [(nonce, c)] }
  | .enter place =>
    match s.waiting[place]? with
    | none => s
    | some (n, c) =>
      { s with
        sessions := (s.sessions.start salt x.time n c).2
        waiting := s.waiting.eraseIdx place }
  | .identify id => { s with sessions := (s.sessions.identify x.time id).2 }
  | .invalidate id => { s with sessions := (s.sessions.remove id).2 }
  | .clear => { s with sessions := s.sessions.clear }
  | .evict => { s with sessions := (s.sessions.evict x.time).2 }

def issue? (salt : Salt) (s : CredentialService) (x : ServiceTurn) :
    Option (SessionId × Option UserId) :=
  let id := SessionId.mint salt (Nonce.next s.last (Nonce.reading x.wall))
  match x.call with
  | .mint => some (id, none)
  | .create c => some (id, some c.userId)
  | _ => none

def after (salt : Salt) (s : CredentialService) (turns : List ServiceTurn) : CredentialService :=
  turns.foldl (step salt) s

/-- The ids that are minted in some turns, with their users. -/
def issued (salt : Salt) (s : CredentialService) :
    List ServiceTurn → List (SessionId × Option UserId)
  | [] => []
  | x :: rest => (s.issue? salt x).toList ++ issued salt (s.step salt x) rest

/-- What holds of a service at work: the ids that were minted have numbers above the first one
    and not above the last one, sessions that wait have a free place in the cache, and what the
    cache has under such a number belongs to the user whom the id was minted for. -/
structure Numbered (salt : Salt) (first : UInt64) (s : CredentialService)
    (issued : List (SessionId × Option UserId)) : Prop where
  begins : first ≤ s.last
  minted : ∀ p ∈ issued, ∃ n, first < n ∧ n ≤ s.last ∧ p.1 = .mint salt n
  distinct : (issued.map Prod.fst).Nodup
  promised : ∀ p ∈ s.waiting, (SessionId.mint salt p.1, some p.2.userId) ∈ issued
  free : ∀ p ∈ s.waiting, s.sessions.get? (.mint salt p.1) = none
  once : (s.waiting.map Prod.fst).Nodup
  owned : ∀ n kept, first < n → s.sessions.get? (.mint salt n) = some kept →
    (SessionId.mint salt n, some kept.credentials.userId) ∈ issued

/-! ## 4. One turn -/

section Turn

variable {salt : Salt} {first : UInt64} {s : CredentialService}
  {issued : List (SessionId × Option UserId)}

theorem step_enter_of_none {wall : Int} {time : Duration} {place : Nat}
    (nobody : s.waiting[place]? = none) : s.step salt ⟨wall, time, .enter place⟩ = s := by
  simp [step, nobody]

theorem step_enter {wall : Int} {time : Duration} {place : Nat} {n : UInt64} {c : Credentials}
    (here : s.waiting[place]? = some (n, c)) :
    s.step salt ⟨wall, time, .enter place⟩ = { s with
      sessions := (s.sessions.start salt time n c).2
      waiting := s.waiting.eraseIdx place } := by
  simp [step, here]

theorem numbered_start {sessions : SessionCache}
    (fresh : ∀ n, first < n → sessions.get? (.mint salt n) = none) :
    Numbered salt first (start first sessions) [] where
  begins := UInt64.le_refl first
  minted := nofun
  distinct := List.nodup_nil
  promised := nofun
  free := nofun
  once := List.nodup_nil
  owned := by
    intro n kept above stored
    rw [start, fresh n above] at stored
    cases stored

namespace Numbered

theorem le_last (h : Numbered salt first s issued) {n : UInt64} {user : Option UserId}
    (hn : (SessionId.mint salt n, user) ∈ issued) : n ≤ s.last := by
  obtain ⟨m, -, le, same⟩ := h.minted _ hn
  rw [SessionId.mint_injective same]
  exact le

theorem unknown (h : Numbered salt first s issued) {n : UInt64} (above : s.last < n)
    (user : Option UserId) : (SessionId.mint salt n, user) ∉ issued := by
  intro hn
  exact UInt64.not_lt.2 (h.le_last hn) above

theorem draw (h : Numbered salt first s issued) {nonce : UInt64} (above : s.last < nonce)
    (user : Option UserId) :
    Numbered salt first { s with last := nonce } (issued ++ [(.mint salt nonce, user)]) where
  begins := UInt64.le_trans h.begins (UInt64.le_of_lt above)
  minted := by
    intro p hp
    rcases List.mem_append.1 hp with hp | hp
    · obtain ⟨n, later, le, same⟩ := h.minted p hp
      exact ⟨n, later, UInt64.le_trans le (UInt64.le_of_lt above), same⟩
    · rw [List.mem_singleton.1 hp]
      exact ⟨nonce, UInt64.lt_of_le_of_lt h.begins above, UInt64.le_refl nonce, rfl⟩
  distinct := nodup_fst_concat h.distinct (h.unknown above)
  promised := fun p hp => List.mem_append_left _ (h.promised p hp)
  free := h.free
  once := h.once
  owned := fun n kept later stored => List.mem_append_left _ (h.owned n kept later stored)

theorem await (h : Numbered salt first s issued) {nonce : UInt64} (above : s.last < nonce)
    (c : Credentials) :
    Numbered salt first { s with last := nonce, waiting := s.waiting ++ [(nonce, c)] }
      (issued ++ [(.mint salt nonce, some c.userId)]) := by
  have drawn := h.draw above (some c.userId)
  refine { drawn with promised := ?_, free := ?_, once := ?_ }
  · intro p hp
    rcases List.mem_append.1 hp with hp | hp
    · exact drawn.promised p hp
    · rw [List.mem_singleton.1 hp]
      exact List.mem_append_right _ (List.mem_singleton_self _)
  · intro p hp
    rcases List.mem_append.1 hp with hp | hp
    · exact h.free p hp
    · rw [List.mem_singleton.1 hp, Option.eq_none_iff_forall_ne_some]
      intro kept stored
      have later : first < nonce := UInt64.lt_of_le_of_lt h.begins above
      exact h.unknown above _ (h.owned nonce kept later stored)
  · refine nodup_fst_concat h.once ?_
    intro c' hp
    exact h.unknown above _ (h.promised _ hp)

theorem enter (h : Numbered salt first s issued) {place : Nat} {n : UInt64} {c : Credentials}
    (here : s.waiting[place]? = some (n, c)) (time : Duration) :
    Numbered salt first { s with
      sessions := (s.sessions.start salt time n c).2
      waiting := s.waiting.eraseIdx place } issued := by
  have rest : s.waiting.eraseIdx place ⊆ s.waiting := (List.eraseIdx_sublist _ _).subset
  have after (id : SessionId) : (s.sessions.start salt time n c).2.get? id =
      if id = .mint salt n then some ⟨c, time⟩ else s.sessions.get? id :=
    SessionCache.get?_insert s.sessions time (.mint salt n) id c
  refine { h with promised := ?_, free := ?_, once := ?_, owned := ?_ }
  · intro p hp
    exact h.promised p (rest hp)
  · intro p hp
    -- no other session that waits has the same number
    have other : p.1 ≠ n := fst_ne_of_mem_eraseIdx h.once here hp
    show (s.sessions.start salt time n c).2.get? _ = none
    rw [after, if_neg fun same => other (SessionId.mint_injective same)]
    exact h.free p (rest hp)
  · exact h.once.sublist ((List.eraseIdx_sublist _ _).map Prod.fst)
  · intro m kept later stored
    have stored : (s.sessions.start salt time n c).2.get? (.mint salt m) = some kept := stored
    rw [after] at stored
    split at stored
    · next same =>
      cases stored
      rw [same]
      exact h.promised (n, c) (List.mem_of_getElem? here)
    · exact h.owned m kept later stored

theorem fade (h : Numbered salt first s issued) {sessions : SessionCache}
    (fewer : ∀ id kept, sessions.get? id = some kept →
      ∃ before, s.sessions.get? id = some before ∧ before.credentials = kept.credentials) :
    Numbered salt first { s with sessions := sessions } issued := by
  refine { h with free := ?_, owned := ?_ }
  · intro p hp
    rw [Option.eq_none_iff_forall_ne_some]
    intro kept stored
    obtain ⟨before, there, -⟩ := fewer _ kept stored
    rw [h.free p hp] at there
    cases there
  · intro n kept later stored
    obtain ⟨before, there, same⟩ := fewer _ kept stored
    rw [← same]
    exact h.owned n before later there

theorem quiet {x : ServiceTurn} {t : CredentialService} (nothing : s.issue? salt x = none)
    (h : Numbered salt first t issued) :
    Numbered salt first t (issued ++ (s.issue? salt x).toList) := by
  rw [nothing, Option.toList_none, List.append_nil]
  exact h

/-- One turn, with numbers left if it takes one. -/
theorem step (h : Numbered salt first s issued) {x : ServiceTurn}
    (room : x.reading?.isSome → s.last.toNat < UInt64.size - 1) :
    Numbered salt first (s.step salt x) (issued ++ (s.issue? salt x).toList) := by
  obtain ⟨wall, time, call⟩ := x
  cases call with
  | mint => exact h.draw (Nonce.lt_next _ (room rfl)) none
  | create c => exact h.await (Nonce.lt_next _ (room rfl)) c
  | enter place =>
    apply quiet rfl
    rcases here : s.waiting[place]? with _ | ⟨n, c⟩
    · rw [step_enter_of_none here]
      exact h
    · rw [step_enter here]
      exact h.enter here time
  | identify id =>
    apply quiet rfl
    exact h.fade fun _ _ found => SessionCache.get?_of_lookup found
  | invalidate id =>
    apply quiet rfl
    apply h.fade
    intro other kept found
    rw [SessionCache.get?_remove] at found
    split at found
    · cases found
    · exact ⟨kept, found, rfl⟩
  | clear =>
    apply quiet rfl
    exact h.fade nofun
  | evict =>
    apply quiet rfl
    apply h.fade
    intro other kept found
    rw [SessionCache.get?_evict, Option.filter_eq_some_iff] at found
    exact ⟨kept, found.1, rfl⟩

end Numbered

end Turn

/-! ## 5. Many turns -/

section Turns

variable {salt : Salt} {first : UInt64} {s : CredentialService} {turns : List ServiceTurn}
  {issued₀ : List (SessionId × Option UserId)}

theorem last_step (x : ServiceTurn) :
    (s.step salt x).last = (x.reading?.map (Nonce.next s.last)).getD s.last := by
  obtain ⟨wall, time, call⟩ := x
  cases call with
  | enter place =>
    rcases here : s.waiting[place]? with _ | ⟨n, c⟩
    · rw [step_enter_of_none here]
      rfl
    · rw [step_enter here]
      rfl
  | _ => rfl

theorem ids_issued :
    (s.issued salt turns).map Prod.fst =
      (Nonce.run s.last (ServiceTurn.readings turns)).map (SessionId.mint salt) := by
  induction turns generalizing s with
  | nil => rfl
  | cons x rest ih =>
    rw [issued, List.map_append, ih, last_step]
    obtain ⟨wall, time, call⟩ := x
    cases call <;> rfl

/-- Whatever is asked of a service, as long as numbers are left. -/
theorem Numbered.after (h : Numbered salt first s issued₀)
    (range : Nonce.InRange s.last (ServiceTurn.readings turns)) :
    Numbered salt first (s.after salt turns) (issued₀ ++ s.issued salt turns) := by
  induction turns generalizing s issued₀ with
  | nil =>
    rw [issued, List.append_nil]
    exact h
  | cons x rest ih =>
    rw [issued, ← List.append_assoc]
    rcases taken : x.reading? with _ | now
    · rw [ServiceTurn.readings, List.filterMap_cons_none taken] at range
      refine ih (h.step ?_) ?_
      · rw [taken]
        exact nofun
      · rw [last_step, taken]
        exact range
    · rw [ServiceTurn.readings, List.filterMap_cons_some taken, Nonce.inRange_cons] at range
      refine ih (h.step fun _ => range.1) ?_
      rw [last_step, taken]
      exact range.2

end Turns

end CredentialService

/-! ## 6. Ids and sessions -/

namespace CredentialService.Numbered

variable {salt : Salt} {first : UInt64} {s : CredentialService}
  {issued : List (SessionId × Option UserId)}

/-- A session that waits finds its place free, leaves all others alone, and is known from then
    on as that of its user. -/
theorem arrives (h : Numbered salt first s issued) {place : Nat} {n : UInt64} {c : Credentials}
    (here : s.waiting[place]? = some (n, c)) (wall : Int) (time : Duration) :
    let s' := s.step salt ⟨wall, time, .enter place⟩
    s.sessions.get? (.mint salt n) = none ∧
      (∀ id, id ≠ .mint salt n → s'.sessions.get? id = s.sessions.get? id) ∧
      (s'.sessions.identify time (.mint salt n)).1 = some ⟨.mint salt n, c.userId⟩ := by
  intro s'
  have sessions : s'.sessions = s.sessions.insert time (.mint salt n) c :=
    congrArg CredentialService.sessions (step_enter here)
  refine ⟨h.free (n, c) (List.mem_of_getElem? here), ?_, ?_⟩
  · intro id other
    rw [sessions, SessionCache.get?_insert, if_neg other]
  · rw [sessions]
    simp [SessionCache.identify, SessionCache.lookup_insert]

/-- Under an id that was minted, nobody is known but the user that it was minted for. -/
theorem known (h : Numbered salt first s issued) {id : SessionId} {user : Option UserId}
    (hid : (id, user) ∈ issued) (now : Duration) :
    (s.sessions.identify now id).1 = none ∨
      ∃ u, user = some u ∧ (s.sessions.identify now id).1 = some ⟨id, u⟩ := by
  rcases found : (s.sessions.lookup now id).1 with _ | c
  · left
    simp [SessionCache.identify, found]
  · obtain ⟨n, later, -, rfl⟩ := h.minted _ hid
    obtain ⟨since, stored, _⟩ := SessionCache.lookup_eq_some.1 found
    have own := h.owned n _ later stored
    have same : user = some c.userId :=
      congrArg Prod.snd (List.inj_on_of_nodup_map h.distinct hid own rfl)
    refine Or.inr ⟨c.userId, same, ?_⟩
    simp [SessionCache.identify, found]

end CredentialService.Numbered

/-- Whatever the wall clock reads, no number is below its reading, brought into the range of a
    word, and as long as a number is below the greatest word, all that follow are above it.  A
    service that goes on from the last number, with nothing in its cache under a number above,
    mints the ids of these numbers.  As long as no number follows the greatest word, whatever else
    is asked of the service, no two of the ids are the same.  A session that was given one of them
    and is put into the cache finds nothing there under its id, leaves all other sessions as they
    are, and is known right then.  And under each of the ids nobody is ever known but the user that
    it was minted for. -/
theorem ids_stay_apart (last : UInt64) (nanos : List Int) (salt : Salt) (sessions : SessionCache)
    (turns : List ServiceTurn) :
    let numbers := Nonce.run last (nanos.map Nonce.reading)
    let s := (CredentialService.start last sessions).after salt turns
    let issued := (CredentialService.start last sessions).issued salt turns
    List.Forall₂ (fun t n => min t.toNat (UInt64.size - 1) ≤ n.toNat) nanos numbers ∧
    (last :: numbers).Pairwise (fun m n => m.toNat < UInt64.size - 1 → m < n) ∧
    issued.map Prod.fst =
      (Nonce.run last (ServiceTurn.readings turns)).map (SessionId.mint salt) ∧
    ((∀ n, last < n → sessions.get? (.mint salt n) = none) →
      Nonce.InRange last (ServiceTurn.readings turns) →
      (issued.map Prod.fst).Nodup ∧
      (∀ place n c, s.waiting[place]? = some (n, c) → ∀ wall time,
        let s' := s.step salt ⟨wall, time, .enter place⟩
        (SessionId.mint salt n, some c.userId) ∈ issued ∧
        s.sessions.get? (.mint salt n) = none ∧
        (∀ id, id ≠ .mint salt n → s'.sessions.get? id = s.sessions.get? id) ∧
        (s'.sessions.identify time (.mint salt n)).1 = some ⟨.mint salt n, c.userId⟩) ∧
      ∀ id user, (id, user) ∈ issued → ∀ now,
        (s.sessions.identify now id).1 = none ∨
          ∃ u, user = some u ∧ (s.sessions.identify now id).1 = some ⟨id, u⟩) := by
  intro numbers s issued
  refine ⟨Nonce.reading_le_run last nanos, Nonce.pairwise_run last _,
    CredentialService.ids_issued, ?_⟩
  intro fresh range
  have kept : CredentialService.Numbered salt last s issued :=
    (CredentialService.numbered_start fresh).after range
  refine ⟨kept.distinct, ?_, fun id user hid now => kept.known hid now⟩
  intro place n c here wall time s'
  exact ⟨kept.promised (n, c) (List.mem_of_getElem? here), kept.arrives here wall time⟩

/-- Two sessions begin at one reading of the wall clock, which then goes back behind 1970.  The
    second one is in the cache, and the first one still finds its place there. -/
theorem ids_stay_apart_sample :
    let salt : Salt := ⟨utf8 "pepper", by decide⟩
    let turns : List ServiceTurn :=
      [⟨5, ⟨0⟩, .create ⟨⟨"ann"⟩, ""⟩⟩, ⟨5, ⟨1⟩, .create ⟨⟨"bob"⟩, ""⟩⟩, ⟨-3, ⟨2⟩, .mint⟩,
        ⟨-3, ⟨3⟩, .enter 1⟩]
    let s := (CredentialService.start 0 (.empty none)).after salt turns
    let s' := s.step salt ⟨-3, ⟨4⟩, .enter 0⟩
    Nonce.InRange 0 (ServiceTurn.readings turns) ∧
      ([5, 6, 7].map (SessionId.mint salt)).Nodup ∧
      (s'.sessions.identify ⟨4⟩ (.mint salt 5)).1 = some ⟨.mint salt 5, ⟨"ann"⟩⟩ := by
  intro salt turns s s'
  have numbers : Nonce.run 0 (ServiceTurn.readings turns) = [5, 6, 7] := by decide
  have range : Nonce.InRange 0 (ServiceTurn.readings turns) := by
    rw [Nonce.InRange, numbers]
    simp
  have here : s.waiting[0]? = some (5, ⟨⟨"ann"⟩, ""⟩) := rfl
  obtain ⟨-, -, ids, kept⟩ := ids_stay_apart 0 [] salt (.empty none) turns
  obtain ⟨apart, arrives, -⟩ := kept (fun _ _ => rfl) range
  rw [ids, numbers] at apart
  obtain ⟨-, -, -, known⟩ := arrives 0 5 _ here (-3) ⟨4⟩
  exact ⟨range, apart, known⟩

end AccessControl
