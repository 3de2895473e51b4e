/-
  AccessControl/Identity/Timestamp.lean
  =====================================
  **Points in time.**

  A timestamp counts milliseconds since the start of 1970, UTC, in a signed word of
  64 bits.  Going back in time stops at the ends of that range instead of wrapping
  around.

  Login attempts are dated by the calendar, and idle sessions are timed by a clock
  that never goes back.  A moment is what both of them read at one time.

  ## Main definitions

  * `Timestamp`, `Timestamp.seconds`: whole seconds, rounded down;
  * `Timestamp.back`: the timestamp some milliseconds earlier;
  * `Moment`, `Moment.later`: what the clocks read, now and some time after.

  ## Main statements

  * `toInt_back`: the exact value of an earlier timestamp.
-/
import AccessControl.Duration.Basic

namespace AccessControl

/-! ## 1. Timestamps -/

/-- The whole number nearest to `n` in the range of a signed word of 64 bits. -/
def clampInt64 (n : Int) : Int := max Int64.minValue.toInt (min Int64.maxValue.toInt n)

theorem clampInt64_mem (n : Int) :
    Int64.minValue.toInt ≤ clampInt64 n ∧ clampInt64 n ≤ Int64.maxValue.toInt := by
  have order : Int64.minValue.toInt ≤ Int64.maxValue.toInt := by decide
  unfold clampInt64
  omega

/-- Milliseconds since the start of 1970, UTC. -/
structure Timestamp where
  millis : Int64
deriving DecidableEq, Repr

namespace Timestamp

/-- Whole seconds since the start of 1970, rounded down. -/
def seconds (t : Timestamp) : Int := Int.fdiv t.millis.toInt 1000

/-- The timestamp some milliseconds earlier, or the end of the range beyond it. -/
def back (t : Timestamp) (millis : Int64) : Timestamp :=
  ⟨Int64.ofInt (clampInt64 (t.millis.toInt - millis.toInt))⟩

def notBefore (t since : Timestamp) : Bool := since.millis ≤ t.millis

def after (t other : Timestamp) : Bool := other.millis < t.millis

/-- The exact value of an earlier timestamp. -/
theorem toInt_back (t : Timestamp) (millis : Int64) :
    (t.back millis).millis.toInt = clampInt64 (t.millis.toInt - millis.toInt) := by
  obtain ⟨low, high⟩ := clampInt64_mem (t.millis.toInt - millis.toInt)
  exact Int64.toInt_ofInt_of_le low (Int.lt_add_one_of_le high)

end Timestamp

/-! ## 2. Moments -/

/-- What the clocks read at one time. -/
structure Moment where
  date : Timestamp
  elapsed : Duration
deriving DecidableEq, Repr

/-- The moment some milliseconds later. -/
def Moment.later (m : Moment) (millis : Nat) : Moment :=
  ⟨⟨Int64.ofInt (m.date.millis.toInt + millis)⟩, ⟨m.elapsed.nanos + millis * 1000000⟩⟩

end AccessControl
