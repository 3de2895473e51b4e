/-
  AccessControl/Duration/Parser.lean
  ==================================
  **Reading durations.**

  A duration is written as spans that are added up: `1h 30min`, `1.5s`, `2days`.  A
  span is a number and a unit.  White space may stand between the digits of the
  number, before the unit and between spans.  A number may have a fraction, with at
  least one digit, if it divides the unit exactly.  Numbers have 64 bits, and no
  step of the sum may leave them.  The text `0` alone is zero.

  The reader goes through the text once and is always in one of four stages.  A
  fault names the byte at which it was noticed.

  ## Main definitions

  * `DurationFault`, `DurationFault.message`: what can be wrong, in words;
  * `DurationReader`: any reader of durations;
  * `Duration.parse`: the duration that a text stands for.
-/
import AccessControl.Duration.Basic
import AccessControl.Text.Decimal
import AccessControl.Text.White

namespace AccessControl

/-! ## 1. Faults -/

/-- What can be wrong with a written duration. -/
inductive DurationFault where
  | empty
  | numberExpected (offset : Nat)
  | invalidCharacter (offset : Nat)
  | unitExpected (number : Nat)
  | unknownUnit (name : String)
  /-- A number leaves 64 bits, or a fraction does not divide its unit. -/
  | unrepresentable
deriving DecidableEq, Repr

def DurationFault.message : DurationFault → String
  | .empty => "value was empty"
  | .numberExpected offset => "expected number at " ++ toString offset
  | .invalidCharacter offset => "invalid character at " ++ toString offset
  | .unitExpected number =>
    "time unit needed, for example " ++ toString number ++ "sec or " ++ toString number ++ "ms"
  | .unknownUnit name =>
    "unknown time unit \"" ++ name ++ "\", supported units: ns, us/µs, ms, sec, min, hours, days, "
      ++ "weeks, months, years (and few variations)"
  | .unrepresentable =>
    "number is too large or cannot be represented without a lack of precision "
      ++ "(values below 1ns are not supported)"

/-- A reader of written durations. -/
abbrev DurationReader : Type := String → Except DurationFault Duration

namespace Duration

/-! ## 2. Spans -/

structure Fraction where
  numerator : Nat
  /-- A power of ten with as many zeros as there are digits. -/
  denominator : Nat
deriving DecidableEq, Repr

structure Quantity where
  whole : Nat
  fraction : Option Fraction
deriving DecidableEq, Repr

/-- A product divided by a denominator, if all fits and nothing is left over. -/
def share? (f : Fraction) (length : Nat) : Option Nat := do
  let product ← fits? (f.numerator * length)
  if product % f.denominator = 0 then some (product / f.denominator) else none

def plusWhole? (d : Duration) (u : TimeUnit) (n : Nat) : Option Duration := do
  let seconds ← fits? (n * u.length.1)
  let nanos ← fits? (n * u.length.2)
  d.plus? seconds nanos

def plusFraction? (d : Duration) (u : TimeUnit) (f : Fraction) : Option Duration := do
  let steps ← u.divisible?
  let seconds ← share? f steps.1
  let nanos ← share? f steps.2
  d.plus? seconds nanos

/-- A duration with a span added: first its whole units, then the fraction. -/
def plusSpan (d : Duration) (q : Quantity) (name : String) : Except DurationFault Duration :=
  match TimeUnit.named? name with
  | none => .error (if name.isEmpty then .unitExpected q.whole else .unknownUnit name)
  | some u =>
    let sum := do
      let d ← d.plusWhole? u q.whole
      match q.fraction with
      | none => some d
      | some f => d.plusFraction? u f
    match sum with
    | some d => .ok d
    | none => .error .unrepresentable

/-! ## 3. The reader -/

inductive Stage where
  | between (start : Nat)
  | whole (n : Nat)
  /-- In the fraction of a number; where the reader last made progress in it. -/
  | fraction (n : Nat) (f : Fraction) (mark : Nat)
  | unit (q : Quantity) (name : List Char)
deriving DecidableEq, Repr

def isUnitLetter (c : Char) : Bool := c.isAlpha || c == 'µ'

def withDigit (n : Nat) (c : Char) : Except DurationFault Nat :=
  match fits? (10 * n + Text.digitValue c) with
  | some n => .ok n
  | none => .error .unrepresentable

def Fraction.withDigit (f : Fraction) (c : Char) : Except DurationFault Fraction :=
  match fits? (10 * f.denominator) with
  | some denominator => .ok ⟨10 * f.numerator + Text.digitValue c, denominator⟩
  | none => .error .unrepresentable

def closeFraction (n : Nat) (f : Fraction) (mark : Nat) : Except DurationFault Quantity :=
  if f.denominator = 1 then .error (.invalidCharacter mark) else .ok ⟨n, some f⟩

/-- The reader passes a character that stands at a byte offset.  It carries the sum
    of the spans that have ended. -/
def step (sum : Duration) (offset : Nat) (c : Char) :
    Stage → Except DurationFault (Stage × Duration)
  | .between start =>
    if Text.isDigit c then .ok (.whole (Text.digitValue c), sum)
    else if Text.isWhite c then .ok (.between start, sum)
    else .error (.numberExpected start)
  | .whole n =>
    if Text.isDigit c then (withDigit n c).map fun n => (.whole n, sum)
    else if Text.isWhite c then .ok (.whole n, sum)
    else if isUnitLetter c then .ok (.unit ⟨n, none⟩ [c], sum)
    else if c = '.' then .ok (.fraction n ⟨0, 1⟩ offset, sum)
    else .error (.invalidCharacter offset)
  | .fraction n f mark =>
    if Text.isDigit c then
      (f.withDigit c).map fun f => (.fraction n f (offset + c.utf8Size), sum)
    else if Text.isWhite c then .ok (.fraction n f (offset + c.utf8Size), sum)
    else if isUnitLetter c then (closeFraction n f mark).map fun q => (.unit q [c], sum)
    else .error (.invalidCharacter mark)
  | .unit q name =>
    if isUnitLetter c then .ok (.unit q (c :: name), sum)
    else if Text.isDigit c then
      (sum.plusSpan q (String.ofList name.reverse)).map fun sum =>
        (.whole (Text.digitValue c), sum)
    else if Text.isWhite c then
      (sum.plusSpan q (String.ofList name.reverse)).map fun sum =>
        (.between (offset + c.utf8Size), sum)
    else .error (.invalidCharacter offset)

def finish (sum : Duration) : Stage → Except DurationFault Duration
  | .between _ => .ok sum
  | .whole n => sum.plusSpan ⟨n, none⟩ ""
  | .fraction n f mark => closeFraction n f mark >>= fun q => sum.plusSpan q ""
  | .unit q name => sum.plusSpan q (String.ofList name.reverse)

def read (stage : Stage) (sum : Duration) (offset : Nat) : List Char → Except DurationFault Duration
  | [] => finish sum stage
  | c :: rest =>
    match step sum offset c stage with
    | .error fault => .error fault
    | .ok (stage, sum) => read stage sum (offset + c.utf8Size) rest

/-- The duration that a text stands for. -/
def parse (text : String) : Except DurationFault Duration :=
  if text = "0" then .ok zero
  else if text.toList.all Text.isWhite then .error .empty
  else read (.between 0) zero 0 text.toList

end Duration

end AccessControl
