/-
  AccessControl/Failure/Basic.lean
  ================================
  **Failures.**

  A failure is one record with a code, the classification that its code had when it
  was made, a message for the client, one for developers, free-form details, and
  the chain of lower failures behind it.  Everything in the library that can go
  wrong ends in one, and passing a failure on never changes it.

  ## Main definitions

  * `Details`: the free-form details, a canonical table of JSON values;
  * `Failure`, `Failure.ofCode`: the record, and the failure that a code alone gives;
  * `Failure.withUser`, `withDev`, `withDetail`, `causedBy`, `correlatedWith`: filling
    it in;
  * `Failure.isNotFound`: an id did not resolve;
  * `Failure.summary`: the failure on one line.
-/
import AccessControl.Failure.Profile
import AccessControl.Json.Value

namespace AccessControl

/-! ## 1. Details -/

/-- Free-form details: names in order, each once, with canonical values. -/
structure Details where
  entries : List (String × Json)
  canonical : Json.canonicalEntries entries = entries
deriving DecidableEq, Repr

namespace Details

/-- The details that a table holds: of repeated names the last one counts. -/
def ofEntries (entries : List (String × Json)) : Details where
  entries := Json.canonicalEntries entries
  canonical := Json.canonicalEntries_eq_self (Json.ordered_canonicalEntries entries)
    (Json.canonical_value entries)

def empty : Details := ⟨[], rfl⟩

instance : Inhabited Details := ⟨empty⟩

/-- The details with one more entry; it takes the place of one with its name. -/
def insert (d : Details) (name : String) (value : Json) : Details :=
  ofEntries (d.entries ++ [(name, value)])

def get? (d : Details) (name : String) : Option Json := d.entries.lookup name

def toJson (d : Details) : Json := .table d.entries

theorem ofEntries_entries (d : Details) : ofEntries d.entries = d := by
  obtain ⟨es, h⟩ := d
  simp only [ofEntries, h]

end Details

/-! ## 2. The record -/

structure Cause where
  code : String
  summary : String
deriving DecidableEq, Repr

/-- A failure. -/
structure Failure where
  code : String
  kind : FailureKind
  userMessage : String
  devMessage : Option String
  status : UInt16
  retry : Retry
  severity : Severity
  details : Details
  causes : List Cause
  correlation : Option String
deriving DecidableEq, Repr

namespace Failure

/-- The failure that a code alone gives: classification and message come from the
    profile of the code, and a code outside the registry keeps its own name. -/
def ofCode (code : String) : Failure :=
  let p := Profile.ofOrInternal code
  { code := code, kind := p.kind, userMessage := p.message, devMessage := none,
    status := p.status, retry := p.retry, severity := p.severity, details := .empty,
    causes := [], correlation := none }

def withUser (f : Failure) (message : String) : Failure := { f with userMessage := message }

def withDev (f : Failure) (message : String) : Failure := { f with devMessage := some message }

/-- The failure with one more detail. -/
def withDetail (f : Failure) (name : String) (value : Json) : Failure :=
  { f with details := f.details.insert name value }

/-- The failure with one more cause at the end of its chain. -/
def causedBy (f : Failure) (cause : Cause) : Failure := { f with causes := f.causes ++ [cause] }

/-- The failure tied to a request. -/
def correlatedWith (f : Failure) (id : String) : Failure := { f with correlation := some id }

/-- The failure says that an id did not resolve. -/
def isNotFound (f : Failure) : Bool := f.code == Code.notFound

/-- The failure on one line: its message, and the one for developers in parentheses. -/
def summary (f : Failure) : String :=
  match f.devMessage with
  | some dev => s!"{f.userMessage} ({dev})"
  | none => f.userMessage

end Failure

end AccessControl
