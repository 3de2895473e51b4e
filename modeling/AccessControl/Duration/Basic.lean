/-
  AccessControl/Duration/Basic.lean
  =================================
  **Lengths of time.**

  A duration is a number of nanoseconds, shown as whole seconds and the nanoseconds
  beyond them.  The seconds of a duration fit in 64 bits.

  Units come in two sorts.  A unit up to the minute may be divided down to the
  nanosecond; a longer one is divided into whole seconds only, and a nanosecond not
  at all.

  ## Main definitions

  * `Duration`, `Duration.seconds`, `Duration.subNanos`, `Duration.millis`;
  * `TimeUnit`, `TimeUnit.named?`: the units and their names;
  * `Duration.plus?`: a duration and a bit more, within 64 bits.

  ## Main statements

  * `nanos_plus?`: adding is addition of nanoseconds.
-/

namespace AccessControl

/-! ## 1. Durations -/

/-- A length of time. -/
structure Duration where
  nanos : Nat
deriving DecidableEq, Repr

namespace Duration

def zero : Duration := ⟨0⟩

def ofSeconds (n : Nat) : Duration := ⟨n * 1000000000⟩

def ofMillis (n : Nat) : Duration := ⟨n * 1000000⟩

/-- The whole seconds in a duration. -/
def seconds (d : Duration) : Nat := d.nanos / 1000000000

/-- The nanoseconds beyond the whole seconds. -/
def subNanos (d : Duration) : Nat := d.nanos % 1000000000

/-- The whole milliseconds in a duration. -/
def millis (d : Duration) : Nat := d.nanos / 1000000

def fits? (n : Nat) : Option Nat := if n < UInt64.size then some n else none

/-- A duration with seconds and nanoseconds added.  The nanoseconds added to those
    beyond the whole seconds must fit in 64 bits, and so must the seconds of the
    sum. -/
def plus? (d : Duration) (seconds nanos : Nat) : Option Duration := do
  let _ ← fits? (d.subNanos + nanos)
  let sum := d.nanos + seconds * 1000000000 + nanos
  let _ ← fits? (sum / 1000000000)
  return ⟨sum⟩

/-- Adding is addition of nanoseconds. -/
theorem nanos_plus? {d e : Duration} {seconds nanos : Nat} (h : d.plus? seconds nanos = some e) :
    e.nanos = d.nanos + seconds * 1000000000 + nanos := by
  unfold plus? fits? at h
  by_cases small : d.subNanos + nanos < UInt64.size
  · by_cases large : (d.nanos + seconds * 1000000000 + nanos) / 1000000000 < UInt64.size
    · simp only [if_pos small, if_pos large, Option.bind_eq_bind, Option.bind_some,
        Option.pure_def, Option.some.injEq] at h
      rw [← h]
    · simp only [if_pos small, if_neg large, Option.bind_eq_bind, Option.bind_some,
        Option.bind_none, reduceCtorEq] at h
  · simp only [if_neg small, Option.bind_eq_bind, Option.bind_none, reduceCtorEq] at h

end Duration

/-! ## 2. Units -/

/-- A unit of time. -/
inductive TimeUnit where
  | nanosecond | microsecond | millisecond | second | minute
  | hour | day | week | month | year
deriving DecidableEq, Repr

namespace TimeUnit

def names : TimeUnit → List String
  | .nanosecond => ["nanos", "nsec", "ns"]
  | .microsecond => ["usec", "us", "µs"]
  | .millisecond => ["millis", "msec", "ms"]
  | .second => ["seconds", "second", "secs", "sec", "s"]
  | .minute => ["minutes", "minute", "min", "mins", "m"]
  | .hour => ["hours", "hour", "hrs", "hr", "h"]
  | .day => ["days", "day", "d"]
  | .week => ["weeks", "week", "wk", "wks", "w"]
  | .month => ["months", "month", "M"]
  | .year => ["years", "year", "yr", "yrs", "y"]

def all : List TimeUnit :=
  [.nanosecond, .microsecond, .millisecond, .second, .minute, .hour, .day, .week, .month, .year]

/-- The unit with a name; upper and lower case differ. -/
def named? (name : String) : Option TimeUnit := all.find? fun u => u.names.contains name

theorem named?_of_mem : ∀ u ∈ all, ∀ name ∈ u.names, named? name = some u := by decide

/-- The length of one unit: whole seconds, and nanoseconds for a unit below the second.
    A month is 30.44 days and a year 365.25. -/
def length : TimeUnit → Nat × Nat
  | .nanosecond => (0, 1)
  | .microsecond => (0, 1000)
  | .millisecond => (0, 1000000)
  | .second => (1, 0)
  | .minute => (60, 0)
  | .hour => (3600, 0)
  | .day => (86400, 0)
  | .week => (604800, 0)
  | .month => (2630016, 0)
  | .year => (31557600, 0)

/-- The length of one unit in the steps into which it may be divided: seconds, or
    nanoseconds up to the minute.  A nanosecond is not divided. -/
def divisible? : TimeUnit → Option (Nat × Nat)
  | .nanosecond => none
  | .microsecond => some (0, 1000)
  | .millisecond => some (0, 1000000)
  | .second => some (0, 1000000000)
  | .minute => some (0, 60000000000)
  | u => some u.length

end TimeUnit

end AccessControl
