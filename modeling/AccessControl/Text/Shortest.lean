/-
  AccessControl/Text/Shortest.lean
  ================================
  **The shortest decimal that reads back.**

  A binary floating-point number `m · 2^q` is one of many reals that round to it;
  they form an interval around it, half a step to each side, whose ends belong to
  it when `m` is even.  The number is written as the decimal in that interval with
  the fewest digits, and of those the nearest.  All comparisons are of natural
  numbers, so they are exact.

  ## Main definitions

  * `Binary`: a positive number `m · 2^q` and whether the step below it is half of
    the step above;
  * `Binary.grid? k`: the multiple of `10^k` in its interval, if there is one;
  * `Binary.shortest`: the multiple of the highest such power, as digits and `k`.
-/

namespace AccessControl.Text

/-- A positive number `mantissa · 2 ^ exponent`.  At a power of two the step to the
    number below is half of the step to the number above. -/
structure Binary where
  mantissa : Nat
  exponent : Int
  halfStepBelow : Bool
deriving DecidableEq, Repr

namespace Binary

/-- The multiple of `10 ^ k` that rounds to the number, if one does: of the two
    neighbours on that grid the one inside the interval, and the nearer (or the
    even) one if both are. -/
def grid? (b : Binary) (k : Int) : Option Nat :=
  -- in units of a quarter step, scaled so that both sides are natural numbers
  let up := Nat.pow 2 (b.exponent - 2).toNat * Nat.pow 10 (-k).toNat
  let down := Nat.pow 2 (2 - b.exponent).toNat * Nat.pow 10 k.toNat
  let value := 4 * b.mantissa * up
  let low := (4 * b.mantissa - if b.halfStepBelow then 1 else 2) * up
  let high := (4 * b.mantissa + 2) * up
  let inside (d : Nat) : Bool :=
    if b.mantissa % 2 = 0 then low ≤ d * down && d * down ≤ high
    else low < d * down && d * down < high
  let below := value / down
  let above := below + 1
  if inside below then
    if inside above then
      let distance := value - below * down
      let other := above * down - value
      if distance < other then some below
      else if other < distance then some above
      else if below % 2 = 0 then some below else some above
    else some below
  else if inside above then some above
  else none

/-- The digits of the shortest decimal and the power of ten that they count. -/
def shortest (b : Binary) : Nat × Int :=
  let top := (Int.ofNat (Nat.log2 b.mantissa) + b.exponent) * 30103 / 100000 + 2
  let found := (List.range 24).findSome? fun i =>
    let k := top - Int.ofNat i
    (b.grid? k).map fun d => (d, k)
  found.getD (b.mantissa, 0)

end Binary

end AccessControl.Text
