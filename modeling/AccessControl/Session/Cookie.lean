/-
  AccessControl/Session/Cookie.lean
  =================================
  **Session cookies.**

  Between requests a session id travels in a cookie.  It is set with its name, its
  lifetime and the mark that hides it from scripts, and read back from the list of
  all cookies that a request carries.  White space around names and values is
  dropped, and so are the quotes around a value.  The first cookie with the name
  counts, and an empty value is no session id.

  ## Main definitions

  * `SessionCookie.render`: the header that sets the cookie;
  * `SessionCookie.extract`: the session id among the cookies of a request.

  ## Main statements

  * `valueIn_cons_of_ne`: a cookie with another name is passed over;
  * `valueIn_cons_of_eq`: the value of the first cookie with the name is found.
-/
import AccessControl.Identity.Basic
import AccessControl.Session.Policy
import AccessControl.Text.Decimal
import AccessControl.Text.Split
import AccessControl.Text.White

namespace AccessControl

structure SessionCookie where
  name : String
  maxAgeSeconds : UInt64
  secure : Bool
deriving DecidableEq, Repr

namespace SessionCookie

def ofPolicy (p : SessionPolicy) : SessionCookie := ⟨p.cookieName, p.maxAgeSeconds, p.secure⟩

/-! ## 1. Setting the cookie -/

def renderChars (c : SessionCookie) (id : SessionId) : List Char :=
  c.name.toList ++ '=' :: id.value.toList ++ "; Max-Age=".toList
    ++ Text.digits c.maxAgeSeconds.toNat ++ "; HttpOnly".toList
    ++ (if c.secure then "; Secure".toList else [])

/-- The header that sets the cookie. -/
def render (c : SessionCookie) (id : SessionId) : String := String.ofList (c.renderChars id)

/-! ## 2. Reading it back -/

def pair? (piece : List Char) : Option (List Char × List Char) := Text.cut '=' (Text.trim piece)

def valueIn (name : List Char) : List (List Char) → Option (List Char)
  | [] => none
  | piece :: rest =>
    match pair? piece with
    | some (n, value) => if Text.trim n = name then some value else valueIn name rest
    | none => valueIn name rest

def bareValue (value : List Char) : List Char :=
  Text.trimMatches (fun c => c == '"') (Text.trim value)

def extractChars (c : SessionCookie) (header : List Char) : Option (List Char) :=
  ((valueIn c.name.toList (Text.pieces ';' header)).map bareValue).filter fun v => !v.isEmpty

/-- The session id in the cookie header of a request, if it has one. -/
def extract (c : SessionCookie) (header : Option String) : Option SessionId :=
  (header.bind fun h => c.extractChars h.toList).map fun v => ⟨String.ofList v⟩

/-- A cookie without a value, or with another name, is passed over. -/
theorem valueIn_cons_of_ne {name piece : List Char} (rest : List (List Char))
    (h : ∀ n v, pair? piece = some (n, v) → Text.trim n ≠ name) :
    valueIn name (piece :: rest) = valueIn name rest := by
  rw [valueIn]
  rcases hp : pair? piece with _ | ⟨n, v⟩
  · rfl
  · simp [h n v hp]

/-- The value of a cookie with the name is found. -/
theorem valueIn_cons_of_eq {name piece n v : List Char} (rest : List (List Char))
    (pair : pair? piece = some (n, v)) (same : Text.trim n = name) :
    valueIn name (piece :: rest) = some v := by
  simp [valueIn, pair, same]

end SessionCookie

end AccessControl
