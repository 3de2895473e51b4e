/-
  AccessControl/Login/Authenticator.lean
  ======================================
  **Checking credentials.**

  Credentials are checked here, against the stored digest of the password, or by an
  identity service elsewhere.  The local check puts every attempt on record, and a
  policy may block further attempts after too many failures: those after the last
  success that are no older than the window of the policy.  A blocked attempt is not
  put on record, and neither is one for a login that nobody has.

  ## Main definitions

  * `LoginOutcome`: what becomes of credentials;
  * `Backend`: how the users and their history are reached;
  * `Backend.check`: the check of a password, with both readings of the clock;
  * `Authenticator`, `Backend.passwords`, `identityService`: the two ways to check.

  ## Main statements

  * `check_unknown`, `check_blocked`, `check_recorded`: what becomes of an attempt.
-/
import AccessControl.Access.Lookups
import AccessControl.Digest.Salted
import AccessControl.Identity.Timestamp
import AccessControl.Session.Policy

namespace AccessControl

/-- What becomes of credentials. -/
inductive LoginOutcome where
  | authenticated (login : UserId)
  | rejected (reason : String)
  | unreachable (reason : String)
deriving DecidableEq, Repr

def LoginOutcome.encode : LoginOutcome → Json
  | .authenticated login => .table [("Authenticated", Json.text login.value)]
  | .rejected reason => .table [("Rejected", Json.text reason)]
  | .unreachable reason => .table [("Unreachable", Json.text reason)]

/-- How the users and their history are reached. -/
structure Backend where
  lookups : Store → Lookups
  record : Store → ObjectId → LoginAttempt → Except Failure Store

def Backend.direct : Backend where
  lookups := Store.lookups
  record s user attempt := (s.recordAttempt user attempt).mapError Refusal.failure

/-- A way to check credentials at some time.  It may change the store even when it
    fails. -/
abbrev Authenticator := Timestamp → Credentials → Store → Except Failure LoginOutcome × Store

def LoginPolicy.since (p : LoginPolicy) (now : Timestamp) : Timestamp :=
  now.back (Int64.ofInt (clampInt64 p.window.millis))

def LoginPolicy.blocking? (p : LoginPolicy) (now : Timestamp) (u : User) : Option Nat :=
  let failures := u.recentFailures (p.since now)
  match p.maxFailures with
  | some limit => if limit.toNat ≤ failures then some failures else none
  | none => none

def LoginOutcome.wrong : LoginOutcome := .rejected "unknown user or bad password"

namespace Backend

open Digest

/-- Credentials are checked against the stored digest of the password.  The clock is read
    once to see whether the user is blocked, and again when the attempt goes on record. -/
def check (b : Backend) (salt : Salt) (policy : LoginPolicy) (asked recorded : Timestamp)
    (c : Credentials) (s : Store) : Except Failure LoginOutcome × Store :=
  match (b.lookups s).user c.userId with
  | .error f => (if f.isNotFound then .ok .wrong else .error f, s)
  | .ok u =>
    match policy.blocking? asked u with
    | some failures => (.error (Failure.tooManyAttempts failures), s)
    | none =>
      let succeeded := salt.verifyPassword c.password u.passwordHash
      match b.record s u.info.id ⟨recorded, succeeded⟩ with
      | .error f => (.error f, s)
      | .ok s => (.ok (if succeeded then .authenticated u.userId else .wrong), s)

/-- The check of passwords, when both readings of the clock agree. -/
def passwords (b : Backend) (salt : Salt) (policy : LoginPolicy) : Authenticator :=
  fun now => b.check salt policy now now

section Check

variable {b : Backend} {salt : Salt} {policy : LoginPolicy} {asked recorded : Timestamp}
  {c : Credentials} {s : Store}

/-- A login that nobody has is rejected, and nothing is recorded. -/
theorem check_unknown {f : Failure} (unknown : (b.lookups s).user c.userId = .error f)
    (notFound : f.isNotFound = true) :
    b.check salt policy asked recorded c s = (.ok .wrong, s) := by
  simp [check, unknown, notFound]

/-- A user that is blocked is told so, and nothing is recorded. -/
theorem check_blocked {u : User} {failures : Nat} (known : (b.lookups s).user c.userId = .ok u)
    (blocked : policy.blocking? asked u = some failures) :
    b.check salt policy asked recorded c s = (.error (Failure.tooManyAttempts failures), s) := by
  simp [check, known, blocked]

/-- Any other attempt is answered once it is on record. -/
theorem check_recorded {u : User} {t : Store} (known : (b.lookups s).user c.userId = .ok u)
    (free : policy.blocking? asked u = none)
    (done : b.record s u.info.id ⟨recorded, salt.verifyPassword c.password u.passwordHash⟩ =
      .ok t) :
    b.check salt policy asked recorded c s =
      (.ok (if salt.verifyPassword c.password u.passwordHash then .authenticated u.userId
        else .wrong), t) := by
  simp [check, known, free, done]

end Check

end Backend

/-- Credentials are checked by an identity service: `verify` asks it, and says why it
    cannot be asked. -/
def identityService (service : String) (verify : String → Credentials → Except String Bool) :
    Authenticator :=
  fun _ c s =>
    (.ok <| match verify service c with
      | .ok true => .authenticated c.userId
      | .ok false => .rejected "identity provider refused"
      | .error reason => .unreachable reason, s)

end AccessControl
