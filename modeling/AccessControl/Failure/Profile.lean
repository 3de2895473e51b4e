/-
  AccessControl/Failure/Profile.lean
  ==================================
  **The registry of failure codes.**

  A failure is named by a code, and the registry gives each code a profile: its
  family, the status it answers with, whether it can be retried, its urgency and a
  message for the client.  Codes outside the registry are allowed; they take the
  profile of an internal error.

  ## Main definitions

  * `Code.*`: the names of the registered codes;
  * `Profile`, `registry`: the profiles, one a code;
  * `Profile.of? code`, `Profile.ofOrInternal code`: looking one up.

  ## Main statements

  * `Profile.of?_eq_some`: no code is registered twice.
-/
import AccessControl.Failure.Class

namespace AccessControl

namespace Code

def unauthenticated := "AUTH.UNAUTHENTICATED"
def invalidSession := "AUTH.INVALID_SESSION"
def identityUnresolved := "AUTH.IDENTITY_UNRESOLVED"
def forbidden := "AUTH.FORBIDDEN"
def tooManyAttempts := "AUTH.TOO_MANY_ATTEMPTS"
def invalidActionMask := "REQUEST.INVALID_ACTION_MASK"
def validation := "SCHEMA.VALIDATION_FAILED"
def notFound := "STORAGE.NOT_FOUND"
def conflict := "STORAGE.CONFLICT"
def storageUnavailable := "STORAGE.UNAVAILABLE"
def providerUnavailable := "PROVIDER.UNAVAILABLE"
def internal := "UNKNOWN.INTERNAL"

end Code

/-- What the registry says of a code. -/
structure Profile where
  code : String
  kind : FailureKind
  status : UInt16
  retry : Retry
  severity : Severity
  message : String
deriving DecidableEq, Repr

/-- The profile of internal errors, which is also that of unregistered codes. -/
def Profile.internal : Profile :=
  ⟨Code.internal, .unknown, 500, .transient, .critical, "Internal error. Please retry later."⟩

/-- All registered profiles, in the order of their codes. -/
def registry : List Profile :=
  [ ⟨Code.forbidden, .auth, 403, .permanent, .warn,
      "You don't have permission to perform this action."⟩,
    ⟨Code.identityUnresolved, .auth, 401, .permanent, .warn, "User could not be identified."⟩,
    ⟨Code.invalidSession, .auth, 401, .permanent, .warn, "Invalid session Id"⟩,
    ⟨Code.tooManyAttempts, .rateLimit, 429, .transient, .warn,
      "Too many failed login attempts. Please retry later."⟩,
    ⟨Code.unauthenticated, .auth, 401, .permanent, .warn, "Unauthenticated"⟩,
    ⟨Code.providerUnavailable, .provider, 503, .transient, .error,
      "Identity provider is unavailable. Please retry later."⟩,
    ⟨Code.invalidActionMask, .badRequest, 400, .permanent, .warn,
      "Exactly one action must be requested."⟩,
    ⟨Code.validation, .schema, 422, .permanent, .warn,
      "Your request is invalid. Please check inputs."⟩,
    ⟨Code.conflict, .conflict, 409, .permanent, .warn, "The object already exists."⟩,
    ⟨Code.notFound, .notFound, 404, .permanent, .info, "Resource not found."⟩,
    ⟨Code.storageUnavailable, .storage, 503, .transient, .error,
      "Storage backend is unavailable. Please retry later."⟩,
    Profile.internal ]

/-- The profile of a registered code. -/
def Profile.of? (code : String) : Option Profile := registry.find? fun p => p.code == code

/-- The profile of a code, that of internal errors if it is not registered. -/
def Profile.ofOrInternal (code : String) : Profile := (Profile.of? code).getD Profile.internal

/-- No code is registered twice: from its code each profile is found again. -/
theorem Profile.of?_eq_some {code : String} {p : Profile} :
    Profile.of? code = some p ↔ p ∈ registry ∧ p.code = code := by
  have each : ∀ p ∈ registry, Profile.of? p.code = some p := by decide
  constructor
  · intro found
    exact ⟨List.mem_of_find?_eq_some found, by simpa using List.find?_some found⟩
  · rintro ⟨registered, rfl⟩
    exact each p registered

end AccessControl
