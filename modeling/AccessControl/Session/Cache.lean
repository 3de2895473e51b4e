/-
  AccessControl/Session/Cache.lean
  ================================
  **The cache of live sessions.**

  Sessions are kept from login to logout.  When there is an idle limit, a session
  that nobody has looked up for longer than the limit is as good as gone: the next
  look-up drops it, and so does a sweep over the whole cache.  A look-up that finds
  a live session starts its idle time anew.  Times are given by the caller, as the
  time since some fixed moment.

  ## Main definitions

  * `SessionCache`, `SessionCache.empty`;
  * `insert`, `lookup`, `remove`, `clear`, `evict`, `size`.

  ## Main statements

  * `lookup_insert`: a session is found right after it was put in;
  * `get?_remove`, `get?_clear`: and no more after it was taken out;
  * `size_evict`: a sweep counts what it drops.
-/
import AccessControl.Duration.Basic
import AccessControl.Identity.Basic
import AccessControl.Shelf

namespace AccessControl

/-! ## 1. The cache -/

structure CachedSession where
  credentials : Credentials
  lastAccess : Duration
deriving DecidableEq, Repr

/-- The sessions on record. -/
structure SessionCache where
  idleLimit : Option Duration
  sessions : Shelf SessionId CachedSession
deriving DecidableEq

namespace SessionCache

def empty (idleLimit : Option Duration) : SessionCache := ⟨idleLimit, Shelf.empty⟩

def isExpired (c : SessionCache) (now : Duration) (s : CachedSession) : Bool :=
  match c.idleLimit with
  | some limit => limit.nanos < now.nanos - s.lastAccess.nanos
  | none => false

def get? (c : SessionCache) (id : SessionId) : Option CachedSession := c.sessions.get? id

def size (c : SessionCache) : Nat := c.sessions.size

/-! ## 2. Operations -/

/-- The cache with a session, in place of an older one with its id. -/
def insert (c : SessionCache) (now : Duration) (id : SessionId) (credentials : Credentials) :
    SessionCache :=
  { c with sessions := c.sessions.put id ⟨credentials, now⟩ }

/-- The cache without a session, and whether there was one. -/
def remove (c : SessionCache) (id : SessionId) : Bool × SessionCache :=
  ((c.get? id).isSome, { c with sessions := c.sessions.erase id })

/-- The credentials of a live session, whose idle time starts anew.  A session that has
    expired is dropped. -/
def lookup (c : SessionCache) (now : Duration) (id : SessionId) :
    Option Credentials × SessionCache :=
  match c.get? id with
  | none => (none, c)
  | some s =>
    if c.isExpired now s then (none, { c with sessions := c.sessions.erase id })
    else (some s.credentials, c.insert now id s.credentials)

def clear (c : SessionCache) : SessionCache := empty c.idleLimit

/-- The cache without the sessions that have expired, and how many those were. -/
def evict (c : SessionCache) (now : Duration) : Nat × SessionCache :=
  let live := c.sessions.keep fun s => !c.isExpired now s.2
  (c.sessions.size - live.size, { c with sessions := live })

/-! ## 3. Laws -/

@[simp] theorem get?_clear (c : SessionCache) (id : SessionId) : c.clear.get? id = none := rfl

/-- What is on record after a session was taken out. -/
theorem get?_remove (c : SessionCache) (id other : SessionId) :
    (c.remove id).2.get? other = if other = id then none else c.get? other :=
  Shelf.get?_erase c.sessions id other

theorem get?_insert (c : SessionCache) (now : Duration) (id other : SessionId)
    (credentials : Credentials) :
    (c.insert now id credentials).get? other
      = if other = id then some ⟨credentials, now⟩ else c.get? other :=
  Shelf.get?_put c.sessions id other _

/-- A session is found right after it was put in. -/
theorem lookup_insert (c : SessionCache) (now : Duration) (id : SessionId)
    (credentials : Credentials) :
    ((c.insert now id credentials).lookup now id).1 = some credentials := by
  have fresh : (c.insert now id credentials).isExpired now ⟨credentials, now⟩ = false := by
    unfold isExpired
    split
    · simp
    · rfl
  simp [lookup, get?_insert, fresh]

/-- A sweep counts what it drops. -/
theorem size_evict (c : SessionCache) (now : Duration) :
    (c.evict now).2.size + (c.evict now).1 = c.size := by
  have := List.length_filter_le (fun s : SessionId × CachedSession => !c.isExpired now s.2)
    c.sessions.entries
  simp only [evict, size, Shelf.size, Shelf.keep]
  omega

end SessionCache

end AccessControl
