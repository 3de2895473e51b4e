/-
  AccessControl/Session/Nonce.lean
  ================================
  **Nonces from the clock.**

  The first half of a session id is a number that no other session of the process
  has.  It is the clock's reading in nanoseconds, except that it always grows: when
  the clock stands still or goes back, the next number is one more than the last.

  ## Main definitions

  * `Nonce.reading`: a reading of the clock as a word of 64 bits;
  * `Nonce.next`: the number after the last one, at a reading of the clock;
  * `Nonce.run`: the numbers at a row of readings.

  ## Main statements

  * `Nonce.le_next`: a number is not below its reading;
  * `Nonce.lt_next`: a number is above the last one, unless that was the greatest.
-/

namespace AccessControl.Nonce

/-- A reading of the clock, in nanoseconds since the start of 1970: zero before
    that, and the greatest word beyond 64 bits. -/
def reading (nanos : Int) : UInt64 := UInt64.ofNat (min nanos.toNat (UInt64.size - 1))

def succ (n : UInt64) : UInt64 := if n.toNat = UInt64.size - 1 then n else n + 1

/-- The number after `last` when the clock reads `now`. -/
def next (last now : UInt64) : UInt64 := if now ≤ succ last then succ last else now

/-- The numbers at a row of readings, after `last`. -/
def run (last : UInt64) : List UInt64 → List UInt64
  | [] => []
  | now :: rest => next last now :: run (next last now) rest

/-- A number is not below its reading. -/
theorem le_next (last now : UInt64) : now ≤ next last now := by
  unfold next
  split
  · assumption
  · exact UInt64.le_refl now

theorem lt_succ {n : UInt64} (h : n.toNat < UInt64.size - 1) : n < succ n := by
  have : n.toNat ≠ UInt64.size - 1 := Nat.ne_of_lt h
  rw [succ, if_neg this, UInt64.lt_iff_toNat_lt, UInt64.toNat_add]
  show n.toNat < (n.toNat + 1) % UInt64.size
  rw [Nat.mod_eq_of_lt (Nat.add_lt_of_lt_sub h)]
  exact Nat.lt_succ_self _

/-- A number is above the last one, unless that was the greatest word. -/
theorem lt_next {last : UInt64} (now : UInt64) (h : last.toNat < UInt64.size - 1) :
    last < next last now := by
  have step := lt_succ h
  unfold next
  split
  · exact step
  · next hn => exact UInt64.lt_trans step (UInt64.not_le.1 hn)

end AccessControl.Nonce
