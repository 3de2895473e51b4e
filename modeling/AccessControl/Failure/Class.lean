/-
  AccessControl/Failure/Class.lean
  ================================
  **How failures are classified.**

  Every failure belongs to a family, says whether the same call can succeed later,
  and has an urgency.  A family is either the caller's mistake or a fault of the
  service.

  ## Main definitions

  * `FailureKind`, `FailureKind.isClientFault`: the families;
  * `Retry`, `Retry.isRetryable`: transient and permanent failures;
  * `Severity`, `Severity.rank`: the urgencies, from least to most urgent.
-/

namespace AccessControl

/-- The broad family of a failure. -/
inductive FailureKind where
  | auth | rateLimit | badRequest | schema | notFound | conflict | storage | provider | unknown
deriving DecidableEq, Repr

def FailureKind.name : FailureKind → String
  | .auth => "Auth"
  | .rateLimit => "RateLimit"
  | .badRequest => "BadRequest"
  | .schema => "Schema"
  | .notFound => "NotFound"
  | .conflict => "Conflict"
  | .storage => "Storage"
  | .provider => "Provider"
  | .unknown => "Unknown"

def FailureKind.all : List FailureKind :=
  [.auth, .rateLimit, .badRequest, .schema, .notFound, .conflict, .storage, .provider, .unknown]

/-- The caller's mistakes, against the faults of the service. -/
def FailureKind.isClientFault : FailureKind → Bool
  | .storage | .provider | .unknown => false
  | _ => true

/-- Whether repeating the same call can succeed. -/
inductive Retry where
  | transient | permanent
deriving DecidableEq, Repr

def Retry.name : Retry → String
  | .transient => "Transient"
  | .permanent => "Permanent"

def Retry.label : Retry → String
  | .transient => "transient"
  | .permanent => "permanent"

/-- A transient failure may go away by itself. -/
def Retry.isRetryable : Retry → Bool
  | .transient => true
  | .permanent => false

/-- How urgent a failure is. -/
inductive Severity where
  | info | warn | error | critical
deriving DecidableEq, Repr

def Severity.name : Severity → String
  | .info => "Info"
  | .warn => "Warn"
  | .error => "Error"
  | .critical => "Critical"

def Severity.label : Severity → String
  | .info => "info"
  | .warn => "warn"
  | .error => "error"
  | .critical => "critical"

/-- The place of an urgency, from least to most urgent. -/
def Severity.rank : Severity → Nat
  | .info => 0
  | .warn => 1
  | .error => 2
  | .critical => 3

def Severity.compare (a b : Severity) : Ordering := Ord.compare a.rank b.rank

end AccessControl
