/-
  AccessControl/Failure/View.lean
  ===============================
  **What is shown of a failure, and to whom.**

  A client sees status, code and message; an audit log sees everything but the
  correlation id; a log line sees a few labels of low variety, among them the
  realm, the resource and the action if the details name them.

  ## Main definitions

  * `Failure.labels`: the labels;
  * `Failure.publicView`: what a client sees;
  * `Failure.auditView`: what an audit log sees;
  * `Failure.report`: the failure as a caller reports it;
  * `Profile.encode`: a line of the registry.
-/
import AccessControl.Failure.Wire
import AccessControl.Json.Printer

namespace AccessControl.Failure

def labelText (value : Json) : String :=
  match value with
  | .scalar (.text s) => s
  | v => Json.compact v

/-- The labels of a failure. -/
def labels (f : Failure) : List (String × String) :=
  [("code", f.code), ("kind", f.kind.name), ("retryable", f.retry.label),
   ("severity", f.severity.label)]
  ++ ["realm", "resource", "action"].filterMap fun name =>
    (f.details.get? name).map fun v => (name, labelText v)

/-- What a client may see: nothing for developers, and no details. -/
def publicView (f : Failure) : Json :=
  .table <|
    [("status", Json.int f.status.toNat), ("code", Json.text f.code),
     ("message", Json.text f.userMessage)]
    ++ Json.optionalEntry "correlation_id" f.correlation

/-- What an audit log keeps. -/
def auditView (f : Failure) : Json :=
  .table <|
    [("labels", .table (f.labels.map fun l => (l.1, Json.text l.2))),
     ("http_status", Json.int f.status.toNat), ("message_user", Json.text f.userMessage)]
    ++ Json.optionalEntry "message_dev" f.devMessage
    ++ [("meta", f.details.toJson)]
    ++ Cause.entry f.causes

/-- The failure as a caller of the library reports it. -/
def report (f : Failure) : List (String × Json) :=
  [("error", Json.text f.code), ("message", Json.text f.userMessage),
   ("dev", Json.optionalText f.devMessage), ("status", Json.int f.status.toNat),
   ("meta", f.details.toJson)]

end AccessControl.Failure

namespace AccessControl

def Profile.encode (p : Profile) : Json :=
  .table [("code", Json.text p.code), ("kind", Json.text p.kind.name),
    ("http_status", Json.int p.status.toNat), ("retryable", Json.text p.retry.label),
    ("is_retryable", Json.bool p.retry.isRetryable), ("severity", Json.text p.severity.label),
    ("client_fault", Json.bool p.kind.isClientFault), ("message", Json.text p.message)]

end AccessControl
