/-
  AccessControl/Session/Wire.lean
  ===============================
  **Policies and durations as JSON values.**

  A duration is shown by its whole seconds and the nanoseconds beyond them, so that no
  digit is lost.

  ## Main definitions

  * `Duration.encode`, `SessionPolicy.encode`, `LoginPolicy.encode`.
-/
import AccessControl.Json.Value
import AccessControl.Session.Policy

namespace AccessControl

def Duration.encode (d : Duration) : Json :=
  .table [("secs", Json.int d.seconds), ("nanos", Json.int d.subNanos)]

def SessionPolicy.encode (p : SessionPolicy) : Json :=
  .table [("cookie_name", Json.text p.cookieName), ("max_age_secs", Json.word64 p.maxAgeSeconds),
    ("secure", Json.bool p.secure), ("idle_ttl", Json.optional Duration.encode p.idleLimit)]

def LoginPolicy.encode (p : LoginPolicy) : Json :=
  .table [("max_failures", Json.optional Json.word32 p.maxFailures), ("window", p.window.encode)]

end AccessControl
