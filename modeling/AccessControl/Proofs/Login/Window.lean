/-
  AccessControl/Proofs/Login/Window.lean
  ======================================
  **Failed logins in a window of time.**

  A limiter looks at the failures after the last success of a user, and of these at the ones
  in a window that ends now.  The window is cut at a millisecond, and its start is computed
  with words of 64 bits that stop at the ends of their range.  From the start of 1970 on
  this makes no difference: an attempt counts exactly if the time since is no longer than
  the window, to the nanosecond and whatever the length of the window (`covers_eq_notBefore`).

  A history is *admitted* when each of its attempts came at a time at which fewer failures
  than the limit counted.  Since each attempt adds at most one, no window that ends at a
  failure holds more failures than the limit (`Admitted.bound`), and none that ends after
  the history does (`Admitted.recent_le`).

  ## Main definitions

  * `Duration.covers`: an attempt lies in a window;
  * `unbroken`, `recent`: the failures after the last success, and how many lie in a window;
  * `Admitted`: histories that a limiter lets through.

  ## Main statements

  * `covers_eq_notBefore`, `recentFailures_eq`: the exact window of a policy;
  * `Admitted.bound`, `Admitted.recent_le`: the limit holds in every window.
-/
import AccessControl.Login.Authenticator

namespace AccessControl

/-! ## 1. Windows -/

/-- An attempt lies in the window that ends at some time: it is no later than this time,
    and the time since is no longer than the window. -/
def Duration.covers (window : Duration) (now : Timestamp) (a : LoginAttempt) : Bool :=
  decide (a.time.millis.toInt ≤ now.millis.toInt ∧
    now.millis.toInt * 1000000 - window.nanos ≤ a.time.millis.toInt * 1000000)

theorem covers_iff {window : Duration} {now : Timestamp} {a : LoginAttempt} :
    window.covers now a = true ↔ a.time.millis.toInt ≤ now.millis.toInt ∧
      now.millis.toInt * 1000000 - window.nanos ≤ a.time.millis.toInt * 1000000 := by
  rw [Duration.covers, decide_eq_true_iff]

theorem covers_earlier {window : Duration} {now earlier : Timestamp} {a : LoginAttempt}
    (order : earlier.millis.toInt ≤ now.millis.toInt)
    (before : a.time.millis.toInt ≤ earlier.millis.toInt)
    (h : window.covers now a = true) : window.covers earlier a = true := by
  rw [covers_iff] at h ⊢
  omega

theorem not_covers_later {window : Duration} {now : Timestamp} {a : LoginAttempt}
    (order : now.millis.toInt ≤ a.time.millis.toInt) (other : now ≠ a.time) :
    ¬window.covers now a = true := by
  rw [covers_iff]
  rintro ⟨before, -⟩
  have same : now.millis = a.time.millis := Int64.toInt_inj.1 (Int.le_antisymm order before)
  exact other (congrArg Timestamp.mk same)

/-- Whole milliseconds in words of 64 bits give the exact window. -/
theorem covers_eq_notBefore (policy : LoginPolicy) {now : Timestamp} {a : LoginAttempt}
    (start : 0 ≤ a.time.millis.toInt) (past : a.time.millis.toInt ≤ now.millis.toInt) :
    policy.window.covers now a = a.time.notBefore (policy.since now) := by
  have nowRange : now.millis.toInt ≤ 9223372036854775807 := now.millis.toInt_le
  have least : Int64.minValue.toInt = -9223372036854775808 := by decide
  have greatest : Int64.maxValue.toInt = 9223372036854775807 := by decide
  have length : (Int64.ofInt (clampInt64 policy.window.millis)).toInt =
      clampInt64 policy.window.millis := by
    obtain ⟨low, high⟩ := clampInt64_mem policy.window.millis
    exact Int64.toInt_ofInt_of_le low (Int.lt_add_one_of_le high)
  have millis : (policy.window.millis : Int) = policy.window.nanos / 1000000 := rfl
  rw [Bool.eq_iff_iff, covers_iff, Timestamp.notBefore, decide_eq_true_iff, LoginPolicy.since,
    Int64.le_iff_toInt_le, Timestamp.toInt_back, length, millis]
  simp only [clampInt64, least, greatest]
  omega

/-! ## 2. Failures after the last success -/

/-- The failures after the last success of a history, latest first. -/
def unbroken (history : List LoginAttempt) : List LoginAttempt :=
  history.reverse.takeWhile fun a => !a.succeeded

/-- How many of them lie in the window that ends at some time. -/
def recent (window : Duration) (now : Timestamp) (history : List LoginAttempt) : Nat :=
  (unbroken history).countP (window.covers now)

section Unbroken

variable {history before streak : List LoginAttempt} {a : LoginAttempt}

theorem mem_of_unbroken (h : a ∈ unbroken history) : a ∈ history :=
  List.mem_reverse.1 ((List.takeWhile_sublist _).subset h)

theorem unbroken_append (failed : ∀ a ∈ streak, a.succeeded = false) :
    unbroken (before ++ streak) = streak.reverse ++ unbroken before := by
  rw [unbroken, List.reverse_append, List.takeWhile_append_of_pos]
  · rfl
  · intro a ha
    rw [failed a (List.mem_reverse.1 ha)]
    rfl

theorem unbroken_failure (failed : a.succeeded = false) :
    unbroken (history ++ [a]) = a :: unbroken history := by
  rw [unbroken_append fun b hb => by rw [List.mem_singleton.1 hb, failed]]
  rfl

theorem unbroken_success (succeeded : a.succeeded = true) : unbroken (history ++ [a]) = [] := by
  simp [unbroken, succeeded]

/-- A row of failures at the end has no more in a window than there are. -/
theorem countP_lt_of_recent {window : Duration} {now : Timestamp} {limit : Nat}
    (below : recent window now (before ++ streak) < limit)
    (failed : ∀ a ∈ streak, a.succeeded = false) :
    streak.countP (window.covers now) < limit := by
  rw [recent, unbroken_append failed, List.countP_append, List.countP_reverse] at below
  omega

theorem recent_le_earlier (window : Duration) {now earlier : Timestamp}
    (order : earlier.millis.toInt ≤ now.millis.toInt)
    (past : ∀ a ∈ history, a.time.millis.toInt ≤ earlier.millis.toInt) :
    recent window now history ≤ recent window earlier history := by
  refine List.countP_mono_left fun a ha => ?_
  exact covers_earlier order (past a (mem_of_unbroken ha))

/-- What a policy counts is what lies in its window. -/
theorem recentFailures_eq (policy : LoginPolicy) {u : User} {now : Timestamp}
    (timely : ∀ a ∈ u.attempts, 0 ≤ a.time.millis.toInt ∧
      a.time.millis.toInt ≤ now.millis.toInt) :
    u.recentFailures (policy.since now) = recent policy.window now u.attempts := by
  refine List.countP_congr fun a ha => ?_
  obtain ⟨start, past⟩ := timely a (mem_of_unbroken ha)
  rw [covers_eq_notBefore policy start past]

end Unbroken

/-! ## 3. Admitted histories -/

/-- A limiter let the history through: no attempt is earlier than one before it, and at the
    time of each fewer failures than the limit lay in the window. -/
inductive Admitted (window : Duration) (limit : Nat) : List LoginAttempt → Prop
  | nil : Admitted window limit []
  | concat {history : List LoginAttempt} {a : LoginAttempt}
      (earlier : Admitted window limit history)
      (order : ∀ b ∈ history, b.time.millis.toInt ≤ a.time.millis.toInt)
      (below : recent window a.time history < limit) :
      Admitted window limit (history ++ [a])

namespace Admitted

variable {window : Duration} {limit : Nat} {history : List LoginAttempt}

/-- Of the failures in a row, no more than the limit lie in a window that ends at one of
    them. -/
theorem bound (h : Admitted window limit history) {before streak after : List LoginAttempt}
    (split : history = before ++ streak ++ after) (failed : ∀ a ∈ streak, a.succeeded = false)
    {a : LoginAttempt} (ha : a ∈ streak) : streak.countP (window.covers a.time) ≤ limit := by
  induction h generalizing before streak after a with
  | nil =>
    have empty : streak = [] := by
      simp only [List.nil_eq, List.append_eq_nil_iff] at split
      exact split.1.2
    rw [empty] at ha
    cases ha
  | @concat history x _ order below ih =>
    rcases List.eq_nil_or_concat after with rfl | ⟨after, y, rfl⟩
    · rcases List.eq_nil_or_concat streak with rfl | ⟨streak, y, rfl⟩
      · cases ha
      · -- the row ends with the last attempt, for which few failures lay in the window
        rw [List.append_nil, List.concat_eq_append, ← List.append_assoc] at split
        obtain ⟨row, last⟩ := List.append_inj' split rfl
        cases last
        simp only [List.concat_eq_append, List.mem_append, List.mem_singleton] at ha failed ⊢
        have failed' : ∀ b ∈ streak, b.succeeded = false := fun b hb => failed b (Or.inl hb)
        have few := countP_lt_of_recent (row ▸ below) failed'
        rw [List.countP_append, List.countP_singleton]
        by_cases same : a.time = x.time
        · rw [same]
          split <;> omega
        · -- an earlier window does not reach the last attempt
          rcases ha with ha | rfl
          · have order' := order a (row ▸ List.mem_append_right _ ha)
            rw [if_neg (not_covers_later order' same)]
            exact ih (row.trans (List.append_nil _).symm) failed' ha
          · exact absurd rfl same
    · rw [List.concat_eq_append, ← List.append_assoc] at split
      obtain ⟨row, -⟩ := List.append_inj' split rfl
      exact ih row failed ha

/-- No more failures than the limit lie in a window that ends after the history. -/
theorem recent_le (h : Admitted window limit history) {now : Timestamp}
    (past : ∀ a ∈ history, a.time.millis.toInt ≤ now.millis.toInt) :
    recent window now history ≤ limit := by
  cases h with
  | nil => exact Nat.zero_le _
  | @concat history x _ order below =>
    rcases outcome : x.succeeded with _ | _
    · -- the earlier failures lay in the window of the last attempt if they do now
      have fewer := recent_le_earlier window (past x (by simp)) order
      rw [recent, unbroken_failure outcome, List.countP_cons]
      change (unbroken history).countP (window.covers now) ≤ _ at fewer
      split <;> omega
    · rw [recent, unbroken_success outcome]
      exact Nat.zero_le _

end Admitted

end AccessControl
