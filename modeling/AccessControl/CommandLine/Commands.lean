/-
  AccessControl/CommandLine/Commands.lean
  =======================================
  **What the commands do.**

  Every command but the signature of a file works with the salt of the settings, so the
  settings are checked first.  A check sows a seed into an empty store, finds the object
  that it is about, logs the user in, sends the session cookie back and forth, and asks
  the gate.  A denial is a result; everything else that goes wrong ends the program.

  ## Main definitions

  * `Reply`: a report, and what is wrong in spite of it;
  * `hashing`, `minting`, `verifying`, `signing`, `checking`: the commands.
-/
import AccessControl.CommandLine.Report
import AccessControl.CommandLine.Request
import AccessControl.CommandLine.Surroundings
import AccessControl.Failure.Inspection
import AccessControl.Gate.Setup
import AccessControl.Seed.Sowing
import AccessControl.Seed.Wire

namespace AccessControl.CommandLine

open Digest

/-! ## 1. Replies and troubles -/

/-- A report, and what is wrong in spite of it. -/
structure Reply where
  report : Report
  fault : Option Trouble
deriving DecidableEq, Repr

def Reply.good (data : List (String × Datum)) (words : String) : Reply := ⟨⟨data, words⟩, none⟩

def failureTrouble (f : Failure) : Trouble :=
  Trouble.plain
    (f.code ++ " (" ++ String.ofList (Text.digits f.status.toNat) ++ "): " ++ f.userMessage)

/-- What is wrong with a seed; what a store refuses is shown in full. -/
def seedTrouble (f : SeedFault) : Trouble :=
  match f with
  | .refused refusal => ⟨f.message, [refusal.failure.inspected]⟩
  | _ => Trouble.plain f.message

def credentials {m : Type → Type} [Monad m] (settings : Settings) (path : String) :
    Attempt m (Salt × SessionCache) :=
  Attempt.of (fun f => Trouble.ofCauses (f.causes path)) settings.credentials

/-! ## 2. Passwords and sessions -/

def firstLine (input : List UInt8) : Except Trouble String :=
  match FileEntry.decodeText? (input.takeWhile fun b => b != 10) with
  | some text =>
    .ok (String.ofList
      (text.toList.reverse.dropWhile fun c => c == '\r' || c == '\n').reverse)
  | none => .error ⟨"Failed to read password from stdin", [FileEntry.notText]⟩

def hashReply (salt : Salt) (password : String) : Option String → Reply
  | none =>
    let digest := salt.hashPassword password
    .good [("digest", .text digest)] digest
  | some stored =>
    let bare := String.ofList (Text.trim stored.toList)
    let same := salt.verifyPassword password bare
    { report := ⟨[("matches", .flag same)], if same then "match" else "mismatch"⟩
      fault := if same then none else some (Trouble.plain "password does not match digest") }

def verifyReply (salt : Salt) (id : String) : Reply :=
  let valid := (SessionId.mk (String.ofList (Text.trim id.toList))).verifies salt
  { report := ⟨[("session_id", .text id), ("valid", .flag valid)],
      if valid then "valid" else "invalid"⟩
    fault := if valid then none else some (Trouble.plain "session id failed verification") }

def mintReply (token : SessionToken) (header : String) : Reply :=
  .good
    [("session_id", .text token.sessionId.value), ("user_id", .text token.userId.value),
     ("set_cookie", .text header)]
    (token.sessionId.value ++ "\nSet-Cookie: " ++ header)

section

variable {m : Type → Type} [Monad m]

def passwordFrom (s : Surroundings m) (source : Option PasswordSource) : Attempt m String := do
  match source with
  | some (.argument password) => return password
  | some .input => Attempt.of id (firstLine (← s.input))
  | none => throw (Trouble.plain "pass --password or --stdin")

/-- The digest of a password, or whether a stored one is that. -/
def hashing (s : Surroundings m) (settings : Settings) (path : String)
    (source : Option PasswordSource) (stored : Option String) : Attempt m Reply := do
  let password ← passwordFrom s source
  let (salt, _) ← credentials settings path
  return hashReply salt password stored

def minting (s : Surroundings m) (settings : Settings) (path user : String) :
    Attempt m Reply := do
  let (salt, sessions) ← credentials settings path
  let policy ← Attempt.of (fun f => Trouble.plain f.failure.summary) settings.sessionPolicy
  let now ← s.now
  let (token, _) := sessions.start salt now.elapsed s.nonce ⟨⟨user⟩, ""⟩
  return mintReply token ((SessionCookie.ofPolicy policy).render token.sessionId)

def verifying (settings : Settings) (path id : String) : Attempt m Reply := do
  let (salt, _) ← credentials settings path
  return verifyReply salt id

def signing (s : Surroundings m) (path : String) : Attempt m Reply := do
  let entry ← s.read path
  let signed ← Attempt.of
    (fun f => Trouble.plain (f.userMessage ++ " (" ++ f.devMessage.getD "" ++ ")"))
    (fileSignature path entry.opened)
  return .good [("path", .text path), ("signature", .text signed)] signed

end

/-! ## 3. Checks -/

def seedIn (entry : FileEntry) : Except Trouble Seed := do
  let text ← entry.text.mapError fun reason => ⟨"failed to read seed file: " ++ reason, [reason]⟩
  match Seed.ofYaml? text with
  | some seed => return seed
  | none =>
    let reason := "no seed in YAML"
    throw ⟨"failed to parse seed file: " ++ reason, [reason]⟩

/-- The cookie that a client sends back: what stands before the first semicolon of the
    header that set it. -/
def cookiePair (header : String) : String :=
  String.ofList ((Text.pieces ';' header.toList).headD [])

/-- One request through the gate: the user logs in, is later known by the cookie and by
    the session id, and the handler is guarded. -/
def passGate (g : Gate) (now later : Moment) (nonce : UInt64) (r : CheckRequest)
    (target : ObjectId) (s : GateState) : Except Trouble (Except Failure Unit) := do
  let (token, s) := g.login now nonce ⟨⟨r.user⟩, r.password⟩ s
  let token ← token.mapError failureTrouble
  match g.authenticateCookie later (some (cookiePair (g.setCookie token))) s with
  | (none, _) => throw (Trouble.plain "session cookie was not recognised")
  | (some token, s) =>
    (g.authenticateSession (some token) s.store).mapError failureTrouble
    return g.guard token (Mask.single r.action).bits target
      (r.handler.getD r.action.lowerName) s.store

def checkReply (r : CheckRequest) (outcome : Except Failure Unit) : Except Trouble Reply :=
  let data (allowed : Bool) : List (String × Datum) :=
    [("user", .text r.user), ("resource", .text r.resource), ("action", .text r.action.name),
     ("allowed", .flag allowed)]
  match outcome with
  | .ok _ => .ok (.good (data true) "allowed")
  | .error f =>
    if f.code = Code.forbidden then
      .ok (.good (data false ++ [("reason", .text f.userMessage)]) ("denied: " ++ f.userMessage))
    else .error (failureTrouble f)

/-- A check of a request against a seed, with the salt and the sessions of the settings: the
    login is now, and the request comes later. -/
def checkSeed (settings : Settings) (salt : Salt) (sessions : SessionCache) (now later : Moment)
    (nonce : UInt64) (ids : Nat → ObjectId) (seed : Seed) (r : CheckRequest)
    (read : DurationReader := Duration.parse) : Except Trouble Reply := do
  let (made, fault) := seed.sow ⟨ids, now.date, salt⟩ Store.empty
  if let some fault := fault then throw (seedTrouble fault)
  let target ← (made.index.target r.resource).mapError seedTrouble
  let gate ← (settings.gate salt Backend.direct read).mapError fun f =>
    Trouble.ofCauses (f.causes "")
  checkReply r (← passGate gate now later nonce r target ⟨made.store, sessions⟩)

/-- Whether a user may do something, in the state that a seed describes. -/
def checking {m : Type → Type} [Monad m] (s : Surroundings m) (settings : Settings) (path : String)
    (r : CheckRequest) : Attempt m Reply := do
  match r.seed.orElse fun _ => settings.seedPath with
  | none => throw (Trouble.plain "No seed file: pass --seed or set seed_path in the config")
  | some seedPath =>
    let (salt, sessions) ← credentials settings path
    let seed ← Attempt.of (Trouble.within · ("Failed to load seed " ++ seedPath))
      (seedIn (← s.read seedPath))
    let now ← s.now
    let later ← s.now
    Attempt.of id (checkSeed settings salt sessions now later s.nonce s.ids seed r)

end AccessControl.CommandLine
