/-
  AccessControl/Gate/Basic.lean
  =============================
  **The gate in front of the handlers.**

  The gate logs users in and out, tells who sends a request, and guards what handlers
  do.  There are two ways to tell who sends a request: by the cache, which knows the
  sessions that are live, and by the session id itself, which verifies under the salt
  as long as the salt is the same.  The guard may be switched off for development;
  then every action is admitted.

  ## Main definitions

  * `Gate`, `GateState`: what a gate is made of, and what changes;
  * `SessionCache.start`, `SessionCache.identify`: sessions in the cache;
  * `login`, `logout`: the life of a session;
  * `authenticateCookie`, `authenticateSession`: the two checks;
  * `authorize`, `guard`: what a user may do.

  ## Main statements

  * `guard_disabled`: a gate that is switched off admits everything.
-/
import AccessControl.Access.Authorizer
import AccessControl.Login.Authenticator
import AccessControl.Session.Cache
import AccessControl.Session.Cookie
import AccessControl.Session.Mint

namespace AccessControl

open Digest

/-! ## 1. Gates -/

/-- What a gate is made of. -/
structure Gate where
  salt : Salt
  authenticator : Authenticator
  lookups : Store → Lookups
  cookie : SessionCookie
  enabled : Bool

/-- What changes behind a gate. -/
structure GateState where
  store : Store
  sessions : SessionCache
deriving DecidableEq

/-! ## 2. Sessions -/

namespace SessionCache

/-- A new session for some credentials, under the id of a number. -/
def start (c : SessionCache) (salt : Salt) (now : Duration) (nonce : UInt64)
    (credentials : Credentials) : SessionToken × SessionCache :=
  let id := SessionId.mint salt nonce
  (⟨id, credentials.userId⟩, c.insert now id credentials)

/-- The token of a live session. -/
def identify (c : SessionCache) (now : Duration) (id : SessionId) :
    Option SessionToken × SessionCache :=
  let (credentials, c) := c.lookup now id
  (credentials.map fun x => ⟨id, x.userId⟩, c)

end SessionCache

namespace Gate

/-! ## 3. Logging in and out -/

/-- A login: the credentials are checked, and those that are good get a session under
    the id of a number that is new. -/
def login (g : Gate) (now : Moment) (nonce : UInt64) (c : Credentials) (s : GateState) :
    Except Failure SessionToken × GateState :=
  match c.validate with
  | .error e => (.error (Failure.unauthenticated e.message), s)
  | .ok _ =>
    let (outcome, store) := g.authenticator now.date c s.store
    let s := { s with store := store }
    match outcome with
    | .error f => (.error f, s)
    | .ok (.rejected reason) => (.error (Failure.unauthenticated reason), s)
    | .ok (.unreachable reason) => (.error (Failure.unauthenticated reason), s)
    | .ok (.authenticated user) =>
      let (token, sessions) := s.sessions.start g.salt now.elapsed nonce { c with userId := user }
      (.ok token, { s with sessions := sessions })

/-- A logout: the session is forgotten. -/
def logout (_ : Gate) (t : SessionToken) (s : GateState) : GateState :=
  { s with sessions := (s.sessions.remove t.sessionId).2 }

/-! ## 4. Who sends a request -/

/-- The live session that the cookies of a request name. -/
def authenticateCookie (g : Gate) (now : Moment) (header : Option String) (s : GateState) :
    Option SessionToken × GateState :=
  match g.cookie.extract header with
  | none => (none, s)
  | some id =>
    let (token, sessions) := s.sessions.identify now.elapsed id
    (token, { s with sessions := sessions })

/-- The token's session id verifies, and its user exists. -/
def authenticateSession (g : Gate) (token : Option SessionToken) (s : Store) :
    Except Failure Unit :=
  match token with
  | none => .error (Failure.unauthenticated "no session token")
  | some t =>
    if t.sessionId.verifies g.salt then ((g.lookups s).account t.userId).map fun _ => ()
    else .error (Failure.invalidSession "session id failed verification")

def setCookie (g : Gate) (t : SessionToken) : String := g.cookie.render t.sessionId

/-! ## 5. What a user may do -/

/-- Whether a user may do the one thing that a row of bits asks for. -/
def authorize (g : Gate) (t : SessionToken) (bits : List Bool) (resource : ObjectId) (s : Store) :
    Except Failure Bool :=
  match Mask.ofBits bits with
  | .error e => .error (Failure.invalidMask e.message)
  | .ok mask => ((g.lookups s).decision t.userId mask resource).map Decision.allow

/-- The guard of a handler: a denial is a failure that names the action and the
    resource. -/
def guard (g : Gate) (t : SessionToken) (bits : List Bool) (resource : ObjectId) (action : String)
    (s : Store) : Except Failure Unit :=
  if !g.enabled then .ok ()
  else do
    if ← g.authorize t bits resource s then return ()
    let r ← (g.lookups s).resource resource
    .error (Failure.forbiddenAction action r.name resource.value)

/-- A gate that is switched off admits everything. -/
theorem guard_disabled {g : Gate} (off : g.enabled = false) (t : SessionToken) (bits : List Bool)
    (resource : ObjectId) (action : String) (s : Store) :
    g.guard t bits resource action s = .ok () := by
  simp [guard, off]

end Gate

end AccessControl
