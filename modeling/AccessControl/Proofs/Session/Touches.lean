/-
  AccessControl/Proofs/Session/Touches.lean
  =========================================
  **What a cache of sessions answers, from the calls that were made.**

  A cache keeps one time for each session, and drops idle sessions in two ways: one by one
  when they are looked up, and all at once in a sweep.  What it should answer is said from
  the calls alone (`Live`).  The last insertion under an id counts, unless the id was
  removed or everything was cleared since; and from that insertion on, the session must
  never have been left alone for longer than the idle limit, where it is touched by its
  insertion and by each look-up.

  All follows from what one call does to the answers of later look-ups (`lookup_apply`):
  the calls change them as they change `Live` (`live_concat`).  A sweep changes no answer,
  since it drops what a later look-up would find expired.

  ## Main definitions

  * `SessionCall`, `TimedCall`: the calls, and when they are made;
  * `SessionCache.after`, `SessionCache.found`: the cache after some calls, and what the
    look-ups among them answer;
  * `Live`: a session is alive, judged by the calls.

  ## Main statements

  * `lookup_after`: a look-up finds exactly what is alive;
  * `stays_absent`: what is not found is not found until it is put in again;
  * `found_withoutSweeps`: sweeps change no answer;
  * `sessions_follow_touches`: all of it.
-/
import AccessControl.Session.Cache
import Mathlib.Data.List.Chain

namespace AccessControl

/-! ## 1. Calls -/

/-- A call of a cache of sessions. -/
inductive SessionCall where
  | insert (id : SessionId) (credentials : Credentials)
  | lookup (id : SessionId)
  | remove (id : SessionId)
  | clear
  | evict
  | size
deriving DecidableEq

/-- A call, and what the clock reads when it is made. -/
structure TimedCall where
  time : Duration
  call : SessionCall
deriving DecidableEq

def TimedCall.apply (c : SessionCache) (x : TimedCall) : SessionCache :=
  match x.call with
  | .insert id credentials => c.insert x.time id credentials
  | .lookup id => (c.lookup x.time id).2
  | .remove id => (c.remove id).2
  | .clear => c.clear
  | .evict => (c.evict x.time).2
  | .size => c

def TimedCall.found? (c : SessionCache) (x : TimedCall) : Option (Option Credentials) :=
  match x.call with
  | .lookup id => some (c.lookup x.time id).1
  | _ => none

namespace SessionCache

/-- The cache after some calls. -/
def after (c : SessionCache) (calls : List TimedCall) : SessionCache :=
  calls.foldl TimedCall.apply c

/-- What the look-ups among some calls answer, in their order. -/
def found (c : SessionCache) : List TimedCall → List (Option Credentials)
  | [] => []
  | x :: rest => (x.found? c).toList ++ found (x.apply c) rest

end SessionCache

/-- The clock never goes back from call to call. -/
def Chronological (calls : List TimedCall) : Prop :=
  calls.Pairwise fun x y => x.time.nanos ≤ y.time.nanos

instance (calls : List TimedCall) : Decidable (Chronological calls) :=
  inferInstanceAs (Decidable (calls.Pairwise _))

theorem chronological_concat {calls : List TimedCall} {x : TimedCall} :
    Chronological (calls ++ [x]) ↔
      Chronological calls ∧ ∀ y ∈ calls, y.time.nanos ≤ x.time.nanos := by
  simp [Chronological, List.pairwise_append]

/-! ## 2. What is alive -/

/-- What was touched at the first time has not been idle for too long at the second. -/
def Close (limit : Option Duration) (since now : Duration) : Prop :=
  ∀ l, limit = some l → now.nanos - since.nanos ≤ l.nanos

theorem Close.earlier {limit : Option Duration} {since now later : Duration}
    (close : Close limit since later) (order : now.nanos ≤ later.nanos) :
    Close limit since now := by
  intro l hl
  have := close l hl
  omega

/-- The call decides what is kept under an id, whatever was kept before. -/
def SessionCall.Resets (id : SessionId) : SessionCall → Prop
  | .insert id' _ => id' = id
  | .remove id' => id' = id
  | .clear => True
  | .lookup _ | .evict | .size => False

def touches (id : SessionId) (calls : List TimedCall) : List Duration :=
  (calls.filter fun x => x.call = .lookup id).map TimedCall.time

/-- After some calls, at some time, a session is alive: it was put in with these
    credentials, nothing else was put in its place, it was not taken out, and no gap between
    touches exceeds the limit, up to this time. -/
def Live (limit : Option Duration) (calls : List TimedCall) (now : Duration) (id : SessionId)
    (credentials : Credentials) : Prop :=
  ∃ before start after, calls = before ++ ⟨start, .insert id credentials⟩ :: after ∧
    (∀ x ∈ after, ¬x.call.Resets id) ∧
    (start :: (touches id after ++ [now])).IsChain (Close limit)

section Live

variable {limit : Option Duration} {calls : List TimedCall} {now : Duration} {id : SessionId}
  {credentials : Credentials}

theorem not_live_nil : ¬Live limit [] now id credentials := by
  rintro ⟨before, start, after, split, _⟩
  simp at split

theorem touches_concat (x : TimedCall) :
    touches id (calls ++ [x]) =
      touches id calls ++ if x.call = .lookup id then [x.time] else [] := by
  by_cases touched : x.call = .lookup id <;> simp [touches, touched]

/-- What one more call does to a session: it begins it, or leaves it alone, or touches it. -/
theorem live_concat (x : TimedCall) :
    Live limit (calls ++ [x]) now id credentials ↔
      (x.call = .insert id credentials ∧ Close limit x.time now) ∨
      ¬x.call.Resets id ∧
        if x.call = .lookup id then
          Live limit calls x.time id credentials ∧ Close limit x.time now
        else Live limit calls now id credentials := by
  constructor
  · rintro ⟨before, start, after, split, kept, chain⟩
    rcases List.eq_nil_or_concat after with rfl | ⟨after, y, rfl⟩
    · -- the insertion is the last call
      obtain ⟨rfl, same⟩ := List.append_inj' split rfl
      cases same
      exact Or.inl ⟨rfl, by simpa [touches] using chain⟩
    · rw [List.concat_eq_append] at split kept chain
      rw [← List.cons_append, ← List.append_assoc] at split
      obtain ⟨rfl, same⟩ := List.append_inj' split rfl
      cases same
      have still : ¬x.call.Resets id := kept x (by simp)
      have keptBefore : ∀ y ∈ after, ¬y.call.Resets id := fun y hy => kept y (by simp [hy])
      refine Or.inr ⟨still, ?_⟩
      rw [touches_concat] at chain
      by_cases touched : x.call = .lookup id
      · rw [if_pos touched] at chain ⊢
        rw [List.append_assoc, List.singleton_append, ← List.cons_append,
          List.isChain_append_cons_cons] at chain
        exact ⟨⟨before, start, after, rfl, keptBefore, chain.1⟩, chain.2.1⟩
      · rw [if_neg touched, List.append_nil] at chain
        rw [if_neg touched]
        exact ⟨before, start, after, rfl, keptBefore, chain⟩
  · rintro (⟨inserted, close⟩ | ⟨still, rest⟩)
    · refine ⟨calls, x.time, [], ?_, by simp, by simpa [touches] using close⟩
      rw [← inserted]
    · have keptAfter : ∀ {after : List TimedCall}, (∀ y ∈ after, ¬y.call.Resets id) →
          ∀ y ∈ after ++ [x], ¬y.call.Resets id := by
        intro after kept y hy
        rcases List.mem_append.1 hy with hy | hy
        · exact kept y hy
        · rw [List.mem_singleton.1 hy]
          exact still
      by_cases touched : x.call = .lookup id
      · rw [if_pos touched] at rest
        obtain ⟨⟨before, start, after, rfl, kept, chain⟩, close⟩ := rest
        refine ⟨before, start, after ++ [x], by simp, keptAfter kept, ?_⟩
        rw [touches_concat, if_pos touched, List.append_assoc, List.singleton_append,
          ← List.cons_append, List.isChain_append_cons_cons]
        exact ⟨chain, close, List.isChain_singleton _⟩
      · rw [if_neg touched] at rest
        obtain ⟨before, start, after, rfl, kept, chain⟩ := rest
        refine ⟨before, start, after ++ [x], by simp, keptAfter kept, ?_⟩
        rw [touches_concat, if_neg touched, List.append_nil]
        exact chain

end Live

/-! ## 3. What one call does to later look-ups -/

namespace SessionCache

variable {c : SessionCache} {now : Duration} {id : SessionId} {credentials : Credentials}

theorem isExpired_eq_false {s : CachedSession} :
    c.isExpired now s = false ↔ Close c.idleLimit s.lastAccess now := by
  unfold isExpired Close
  rcases c.idleLimit with _ | limit
  · simp
  · simp

theorem lookup_of_none (absent : c.get? id = none) : c.lookup now id = (none, c) := by
  rw [lookup, absent]

theorem lookup_of_live {s : CachedSession} (kept : c.get? id = some s)
    (live : c.isExpired now s = false) :
    c.lookup now id = (some s.credentials, c.insert now id s.credentials) := by
  simp [lookup, kept, live]

theorem lookup_of_expired {s : CachedSession} (kept : c.get? id = some s)
    (expired : c.isExpired now s = true) : c.lookup now id = (none, (c.remove id).2) := by
  simp [lookup, kept, expired, remove]

theorem lookup_eq_some :
    (c.lookup now id).1 = some credentials ↔
      ∃ since, c.get? id = some ⟨credentials, since⟩ ∧ Close c.idleLimit since now := by
  rcases kept : c.get? id with _ | s
  · simp [lookup_of_none kept]
  · rcases old : c.isExpired now s with _ | _
    · rw [lookup_of_live kept old]
      have close := isExpired_eq_false.1 old
      constructor
      · intro same
        cases same
        exact ⟨s.lastAccess, rfl, close⟩
      · rintro ⟨since, same, _⟩
        cases same
        rfl
    · rw [lookup_of_expired kept old]
      constructor
      · intro absent
        cases absent
      · rintro ⟨since, same, close⟩
        cases same
        rw [isExpired_eq_false.2 close] at old
        cases old

theorem lookup_earlier {later : Duration} (order : now.nanos ≤ later.nanos)
    (here : (c.lookup later id).1 = some credentials) : (c.lookup now id).1 = some credentials := by
  obtain ⟨since, kept, close⟩ := lookup_eq_some.1 here
  exact lookup_eq_some.2 ⟨since, kept, close.earlier order⟩

theorem idleLimit_lookup : (c.lookup now id).2.idleLimit = c.idleLimit := by
  rcases kept : c.get? id with _ | s
  · rw [lookup_of_none kept]
  · rcases old : c.isExpired now s with _ | _
    · rw [lookup_of_live kept old]
      rfl
    · rw [lookup_of_expired kept old]
      rfl

theorem idleLimit_apply (x : TimedCall) : (x.apply c).idleLimit = c.idleLimit := by
  obtain ⟨time, call⟩ := x
  cases call with
  | lookup id => exact idleLimit_lookup
  | _ => rfl

theorem get?_lookup (other : SessionId) :
    (c.lookup now id).2.get? other =
      if other = id then (c.lookup now id).1.map fun kept => ⟨kept, now⟩ else c.get? other := by
  rcases kept : c.get? id with _ | s
  · rw [lookup_of_none kept]
    by_cases same : other = id
    · rw [if_pos same, same]
      exact kept
    · rw [if_neg same]
  · rcases old : c.isExpired now s with _ | _
    · rw [lookup_of_live kept old]
      exact c.get?_insert now id other s.credentials
    · rw [lookup_of_expired kept old]
      exact c.get?_remove id other

theorem get?_of_lookup {other : SessionId} {x : CachedSession}
    (found : (c.lookup now id).2.get? other = some x) :
    ∃ y, c.get? other = some y ∧ y.credentials = x.credentials := by
  rw [get?_lookup] at found
  split at found
  · next own =>
    subst own
    obtain ⟨credentials, here, rfl⟩ := Option.map_eq_some_iff.1 found
    obtain ⟨since, stored, _⟩ := lookup_eq_some.1 here
    exact ⟨_, stored, rfl⟩
  · exact ⟨x, found, rfl⟩

theorem get?_evict (other : SessionId) :
    (c.evict now).2.get? other = (c.get? other).filter fun s => !c.isExpired now s :=
  Shelf.get?_keep c.sessions _ other

/-- What one more call does to a later look-up: as for what is alive. -/
theorem lookup_apply {x : TimedCall} (order : x.time.nanos ≤ now.nanos) :
    ((x.apply c).lookup now id).1 = some credentials ↔
      (x.call = .insert id credentials ∧ Close c.idleLimit x.time now) ∨
      ¬x.call.Resets id ∧
        if x.call = .lookup id then
          (c.lookup x.time id).1 = some credentials ∧ Close c.idleLimit x.time now
        else (c.lookup now id).1 = some credentials := by
  rw [lookup_eq_some, idleLimit_apply]
  obtain ⟨time, call⟩ := x
  cases call with
  | insert id' kept =>
    by_cases same : id' = id
    · subst same
      simp [TimedCall.apply, get?_insert, SessionCall.Resets, and_assoc]
    · simp [TimedCall.apply, get?_insert, SessionCall.Resets, same, Ne.symm same, lookup_eq_some]
  | lookup id' =>
    by_cases same : id' = id
    · subst same
      simp [TimedCall.apply, get?_lookup, SessionCall.Resets]
    · simp [TimedCall.apply, get?_lookup, SessionCall.Resets, same, Ne.symm same, lookup_eq_some]
  | remove id' =>
    by_cases same : id' = id
    · simp [TimedCall.apply, get?_remove, SessionCall.Resets, same]
    · simp [TimedCall.apply, get?_remove, SessionCall.Resets, same, Ne.symm same, lookup_eq_some]
  | clear => simp [TimedCall.apply, SessionCall.Resets]
  | size => simp [TimedCall.apply, SessionCall.Resets, lookup_eq_some]
  | evict =>
    have kept : (∃ since, (c.evict time).2.get? id = some ⟨credentials, since⟩ ∧
        Close c.idleLimit since now) ↔ (c.lookup now id).1 = some credentials := by
      rw [lookup_eq_some]
      refine exists_congr fun since => and_congr_left fun close => ?_
      -- what is not idle for too long later is not swept away now
      have live : c.isExpired time ⟨credentials, since⟩ = false :=
        isExpired_eq_false.2 (close.earlier order)
      rw [get?_evict, Option.filter_eq_some_iff, live]
      simp
    simpa [SessionCall.Resets, TimedCall.apply] using kept

/-! ## 4. Whole runs -/

theorem idleLimit_after (calls : List TimedCall) : (c.after calls).idleLimit = c.idleLimit := by
  induction calls generalizing c with
  | nil => rfl
  | cons x calls ih => exact ih.trans (idleLimit_apply x)

theorem after_append (calls calls' : List TimedCall) :
    c.after (calls ++ calls') = (c.after calls).after calls' :=
  List.foldl_append

theorem after_concat (calls : List TimedCall) (x : TimedCall) :
    c.after (calls ++ [x]) = x.apply (c.after calls) :=
  after_append calls [x]

theorem lookup_after {limit : Option Duration} {calls : List TimedCall}
    (chronological : Chronological calls) (order : ∀ x ∈ calls, x.time.nanos ≤ now.nanos) :
    (((empty limit).after calls).lookup now id).1 = some credentials ↔
      Live limit calls now id credentials := by
  induction calls using List.reverseRecOn generalizing now with
  | nil =>
    refine iff_of_false ?_ not_live_nil
    intro found
    cases found
  | append_singleton calls x ih =>
    obtain ⟨earlier, last⟩ := chronological_concat.1 chronological
    have before : ∀ y ∈ calls, y.time.nanos ≤ now.nanos := fun y hy => order y (by simp [hy])
    rw [after_concat, lookup_apply (order x (by simp)), live_concat, idleLimit_after,
      ih earlier last, ih earlier before]
    rfl

/-- What is not found stays away as long as it is not put in again. -/
theorem stays_absent {calls : List TimedCall} {now later : Duration}
    (absent : (c.lookup now id).1 = none)
    (chronological : Chronological calls)
    (between : ∀ x ∈ calls, now.nanos ≤ x.time.nanos ∧ x.time.nanos ≤ later.nanos)
    (order : now.nanos ≤ later.nanos)
    (notAgain : ∀ x ∈ calls, ∀ kept, x.call ≠ .insert id kept) :
    ((c.after calls).lookup later id).1 = none := by
  induction calls using List.reverseRecOn generalizing later with
  | nil =>
    rw [Option.eq_none_iff_forall_ne_some] at absent ⊢
    intro kept found
    exact absent kept (lookup_earlier order found)
  | append_singleton calls x ih =>
    obtain ⟨earlier, last⟩ := chronological_concat.1 chronological
    obtain ⟨since, before⟩ := between x (by simp)
    have gone : ∀ {time : Duration}, (∀ y ∈ calls, y.time.nanos ≤ time.nanos) →
        now.nanos ≤ time.nanos → ∀ kept, ((c.after calls).lookup time id).1 ≠ some kept := by
      intro time ends starts kept
      rw [ih earlier (fun y hy => ⟨(between y (by simp [hy])).1, ends y hy⟩) starts
        fun y hy => notAgain y (by simp [hy])]
      exact nofun
    rw [Option.eq_none_iff_forall_ne_some]
    intro kept
    rw [after_concat, ne_eq, lookup_apply before]
    rintro (⟨inserted, _⟩ | ⟨_, found⟩)
    · exact notAgain x (by simp) kept inserted
    · by_cases touched : x.call = .lookup id
      · rw [if_pos touched] at found
        exact gone last since kept found.1
      · rw [if_neg touched] at found
        exact gone (fun y hy => (between y (by simp [hy])).2) order kept found

/-! ## 5. Sweeps -/

/-- From some time on, the look-ups of two caches find the same. -/
structure Alike (now : Duration) (c c' : SessionCache) : Prop where
  limit : c.idleLimit = c'.idleLimit
  found : ∀ later id, now.nanos ≤ later.nanos → (c.lookup later id).1 = (c'.lookup later id).1

theorem Alike.apply {c' : SessionCache} (h : Alike now c c') {x : TimedCall}
    (order : now.nanos ≤ x.time.nanos) : Alike x.time (x.apply c) (x.apply c') where
  limit := by rw [idleLimit_apply, idleLimit_apply, h.limit]
  found later id hlater := by
    apply Option.ext
    intro credentials
    rw [lookup_apply hlater, lookup_apply hlater, h.limit, h.found x.time id order,
      h.found later id (Nat.le_trans order hlater)]

theorem Alike.sweep {c' : SessionCache} (h : Alike now c c') {x : TimedCall}
    (order : now.nanos ≤ x.time.nanos) (sweep : x.call = .evict) : Alike x.time (x.apply c) c' where
  limit := (idleLimit_apply x).trans h.limit
  found later id hlater := by
    rw [← h.found later id (Nat.le_trans order hlater)]
    apply Option.ext
    intro credentials
    rw [lookup_apply hlater, sweep]
    simp [SessionCall.Resets]

def withoutSweeps (calls : List TimedCall) : List TimedCall := calls.filter fun x => x.call ≠ .evict

/-- Sweeps change no answer. -/
theorem found_withoutSweeps {c' : SessionCache} (h : Alike now c c') {calls : List TimedCall}
    (chronological : Chronological calls) (order : ∀ x ∈ calls, now.nanos ≤ x.time.nanos) :
    c.found calls = c'.found (withoutSweeps calls) := by
  induction calls generalizing now c c' with
  | nil => rfl
  | cons x calls ih =>
    obtain ⟨later, rest⟩ := List.pairwise_cons.1 chronological
    have here := order x (List.mem_cons_self ..)
    by_cases sweep : x.call = .evict
    · have skipped : withoutSweeps (x :: calls) = withoutSweeps calls := by
        simp [withoutSweeps, sweep]
      rw [skipped, ← ih (h.sweep here sweep) rest later]
      simp [found, TimedCall.found?, sweep]
    · have kept : withoutSweeps (x :: calls) = x :: withoutSweeps calls := by
        simp [withoutSweeps, sweep]
      have same : x.found? c = x.found? c' := by
        unfold TimedCall.found?
        split
        · exact congrArg some (h.found x.time _ here)
        · rfl
      rw [kept, found, found, same, ih (h.apply here) rest later]

end SessionCache

/-! ## 6. Sessions follow their touches -/

/-- Whatever the idle limit, and whatever calls are made from an empty cache on, by a clock
    that does not go back: a look-up finds what is alive, and nothing else; what it does not
    find is not found again until it is put in again; and where two rows of calls differ in
    sweeps only, the look-ups in them answer the same. -/
theorem sessions_follow_touches (limit : Option Duration) :
    (∀ calls now id credentials, Chronological (calls ++ [⟨now, .lookup id⟩]) →
      ((((SessionCache.empty limit).after calls).lookup now id).1 = some credentials ↔
        Live limit calls now id credentials)) ∧
    (∀ before between now later id,
      Chronological (before ++ ⟨now, .lookup id⟩ :: (between ++ [⟨later, .lookup id⟩])) →
      (((SessionCache.empty limit).after before).lookup now id).1 = none →
      (∀ x ∈ between, ∀ credentials, x.call ≠ .insert id credentials) →
      (((SessionCache.empty limit).after (before ++ ⟨now, .lookup id⟩ :: between)).lookup
        later id).1 = none) ∧
    ∀ calls calls', Chronological calls → Chronological calls' →
      SessionCache.withoutSweeps calls = SessionCache.withoutSweeps calls' →
      (SessionCache.empty limit).found calls = (SessionCache.empty limit).found calls' := by
  refine ⟨?_, ?_, ?_⟩
  · intro calls now id credentials chronological
    obtain ⟨earlier, order⟩ := chronological_concat.1 chronological
    exact SessionCache.lookup_after earlier order
  · intro before between now later id chronological absent notAgain
    obtain ⟨_, onward, _⟩ := List.pairwise_append.1 chronological
    obtain ⟨since, rest⟩ := List.pairwise_cons.1 onward
    obtain ⟨apart, before⟩ := chronological_concat.1 rest
    have order : now.nanos ≤ later.nanos := since ⟨later, .lookup id⟩ (by simp)
    rw [SessionCache.after_append]
    refine SessionCache.stays_absent absent ?_ ?_ order ?_
    · exact List.pairwise_cons.2 ⟨fun x hx => since x (by simp [hx]), apart⟩
    · intro x hx
      rcases List.mem_cons.1 hx with rfl | hx
      · exact ⟨Nat.le_refl _, order⟩
      · exact ⟨since x (by simp [hx]), before x hx⟩
    · intro x hx credentials
      rcases List.mem_cons.1 hx with rfl | hx
      · exact nofun
      · exact notAgain x hx credentials
  · intro calls calls' chronological chronological' same
    have alike : SessionCache.Alike Duration.zero (.empty limit) (.empty limit) :=
      ⟨rfl, fun _ _ _ => rfl⟩
    rw [SessionCache.found_withoutSweeps alike chronological fun x _ => Nat.zero_le _,
      SessionCache.found_withoutSweeps alike chronological' fun x _ => Nat.zero_le _, same]

/-- A session that is looked up when the limit is just reached lives on from there, through
    a sweep, and is not found once the limit is passed. -/
theorem sessions_follow_touches_sample :
    let ann : Credentials := ⟨⟨"ann"⟩, "secret"⟩
    let calls : List TimedCall :=
      [⟨⟨0⟩, .insert ⟨"one"⟩ ann⟩, ⟨⟨10⟩, .lookup ⟨"one"⟩⟩, ⟨⟨15⟩, .evict⟩]
    Chronological (calls ++ [⟨⟨20⟩, .lookup ⟨"one"⟩⟩]) ∧
      Live (some ⟨10⟩) calls ⟨20⟩ ⟨"one"⟩ ann ∧ ¬Live (some ⟨10⟩) calls ⟨21⟩ ⟨"one"⟩ ann := by
  intro ann calls
  have follows := (sessions_follow_touches (some ⟨10⟩)).1
  refine ⟨by decide, (follows calls ⟨20⟩ ⟨"one"⟩ ann (by decide)).1 (by decide), ?_⟩
  rw [← follows calls ⟨21⟩ ⟨"one"⟩ ann (by decide)]
  decide

end AccessControl
