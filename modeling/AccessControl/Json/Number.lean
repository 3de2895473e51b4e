/-
  AccessControl/Json/Number.lean
  ==============================
  **Numbers in JSON texts.**

  A number without fraction and exponent that fits in 64 bits (signed below zero,
  unsigned above) is a whole number; every other one is a double, and so is `-0`.
  A double is computed from the leading digits that fit in 64 bits, by one
  multiplication or division by a power of ten, and a number too large for a
  double cannot be read.  A double is written with the fewest digits that read back,
  positionally from `1e-5` up to below `1e16`, else with an exponent that shows its sign.

  ## Main definitions

  * `number? cs`: the number at the start of a text, and the rest;
  * `floatText bits`: the text of a double.
-/
import AccessControl.Json.Value
import AccessControl.Text.Decimal
import AccessControl.Text.Shortest

namespace AccessControl.Json

open AccessControl.Text

/-! ## 1. Reading -/

/-- The largest number that the digits of a number are gathered in. -/
def significandLimit : Nat := UInt64.size - 1

/-- The leading digits of a row gathered onto a number, as many as fit, and how
    many digits are left over. -/
def gather (n : Nat) : List Char → Nat × Nat
  | [] => (n, 0)
  | d :: ds =>
    if 10 * n + digitValue d ≤ significandLimit then gather (10 * n + digitValue d) ds
    else (n, ds.length + 1)

/-- The double nearest to a significand, times a power of ten, if it is finite. -/
def scaled (significand : Nat) (exponent : Int) : Option Float :=
  let f := Float.ofNat significand
  let tenTo (k : Int) : Float := Float.ofScientific 1 false k.toNat
  if exponent ≥ 0 then
    if significand = 0 then some 0
    else if exponent ≤ 308 then
      let g := f * tenTo exponent
      if g.isInf then none else some g
    else none
  else if exponent ≥ -308 then some (f / tenTo (-exponent))
  else if exponent ≥ -616 then some (f / tenTo 308 / tenTo (-exponent - 308))
  else some 0

def signed (negative : Bool) (f : Float) : JsonScalar :=
  .float (if negative then -f else f).toBits

def exponent? (cs : List Char) : Option (Int × List Char) :=
  let (negative, cs) := match cs with
    | '+' :: r => (false, r)
    | '-' :: r => (true, r)
    | r => (false, r)
  let ds := cs.takeWhile isDigit
  if ds = [] then none
  else
    let e := Int.ofNat (readDigits ds)
    some (if negative then -e else e, cs.dropWhile isDigit)

def minus : List Char → Bool × List Char
  | '-' :: rest => (true, rest)
  | rest => (false, rest)

def fraction? : List Char → Option (Option (List Char) × List Char)
  | '.' :: rest =>
    let ds := rest.takeWhile isDigit
    if ds = [] then none else some (some ds, rest.dropWhile isDigit)
  | rest => some (none, rest)

def power? : List Char → Option (Option Int × List Char)
  | 'e' :: rest | 'E' :: rest => (exponent? rest).map fun p => (some p.1, p.2)
  | rest => some (none, rest)

/-- The whole number with a sign that fits in 64 bits.  There is no zero below zero. -/
def whole? (negative : Bool) (significand : Nat) : Option Int :=
  if !negative then some significand
  else if 0 < significand ∧ Int64.minValue.toInt ≤ -Int.ofNat significand then some (-significand)
  else none

/-- The number at the start of a text, if it can be read, and the rest of the text. -/
def number? (cs : List Char) : Option (Option JsonScalar × List Char) := do
  let (negative, cs) := minus cs
  let whole := cs.takeWhile isDigit
  -- at least one digit, and no zero in front of another digit
  guard (whole ≠ [] ∧ (whole.head? = some '0' → whole.length = 1))
  let (significand, left) := gather 0 whole
  let (fraction, rest) ← fraction? (cs.dropWhile isDigit)
  let (power, rest) ← power? rest
  let bare := fraction.isNone && power.isNone && left == 0
  match if bare then whole? negative significand else none with
  | some n => return (some (.int n), rest)
  | none =>
    let (significand, dropped) := gather significand (fraction.getD [])
    let used := (fraction.getD []).length - dropped
    let f := scaled significand (Int.ofNat left - Int.ofNat used + power.getD 0)
    return (f.map (signed negative), rest)

/-! ## 2. Writing -/

def intText (n : Int) : List Char :=
  if n < 0 then '-' :: digits n.natAbs else digits n.natAbs

def fractionCount : Nat := 4503599627370496

/-- The positive number that the bits of a finite double stand for, its sign apart;
    none for zero. -/
def magnitude? (bits : UInt64) : Option Binary :=
  let fraction := bits.toNat % fractionCount
  let e := bits.toNat / fractionCount % 2048
  if e = 0 then
    if fraction = 0 then none else some ⟨fraction, -1074, false⟩
  else some ⟨fractionCount + fraction, Int.ofNat e - 1075, fraction == 0 && e != 1⟩

/-- Digits and the power of ten that they count, positionally where the number is
    neither small nor large. -/
def decimalText (significand : Nat) (power : Int) : List Char :=
  let ds := digits significand
  let point := Int.ofNat ds.length + power
  if 0 ≤ power ∧ point ≤ 16 then ds ++ List.replicate power.toNat '0' ++ ['.', '0']
  else if 0 < point ∧ point ≤ 16 then ds.take point.toNat ++ '.' :: ds.drop point.toNat
  else if -5 < point ∧ point ≤ 0 then '0' :: '.' :: List.replicate (-point).toNat '0' ++ ds
  else
    let mantissa := match ds with
      | [d] => [d]
      | d :: r => d :: '.' :: r
      | [] => []
    mantissa ++ 'e' :: (if 0 < point then ['+'] else []) ++ intText (point - 1)

/-- The text of a finite double. -/
def floatText (bits : UInt64) : List Char :=
  let sign := if bits.toNat / (2048 * fractionCount) = 1 then ['-'] else []
  sign ++ match magnitude? bits with
    | none => ['0', '.', '0']
    | some b => decimalText b.shortest.1 b.shortest.2

end AccessControl.Json
