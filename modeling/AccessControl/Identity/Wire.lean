/-
  AccessControl/Identity/Wire.lean
  ================================
  **Ids, timestamps, credentials and tokens as JSON values.**

  An id is its text and a timestamp its number of milliseconds; credentials and
  tokens are records of two fields.

  ## Main statements

  * `decode?_encode` of each: what is written reads back.
-/
import AccessControl.Identity.Basic
import AccessControl.Identity.Timestamp
import AccessControl.Json.Value

namespace AccessControl

variable {σ : Type} [Scalar σ]

/-! ## 1. Ids and timestamps -/

def ObjectId.encode (id : ObjectId) : Json := Json.text id.value

def ObjectId.decode? (d : Document σ) : Option ObjectId := d.text?.map ObjectId.mk

theorem ObjectId.decode?_encode (id : ObjectId) : decode? id.encode = some id := rfl

def ObjectId.encodeAll (ids : List ObjectId) : Json := .list (ids.map encode)

def ObjectId.decodeAll? (d : Document σ) : Option (List ObjectId) := d.list? decode?

theorem ObjectId.decodeAll?_encodeAll (ids : List ObjectId) :
    decodeAll? (encodeAll ids) = some ids :=
  Document.list?_map ObjectId.decode?_encode ids

def ObjectId.encodeOptional (id : Option ObjectId) : Json :=
  Json.optionalText (id.map ObjectId.value)

def UserId.encode (id : UserId) : Json := Json.text id.value

def UserId.decode? (d : Document σ) : Option UserId := d.text?.map UserId.mk

def SessionId.encode (id : SessionId) : Json := Json.text id.value

def SessionId.decode? (d : Document σ) : Option SessionId := d.text?.map SessionId.mk

def Timestamp.encode (t : Timestamp) : Json := Json.int t.millis.toInt

def Timestamp.decode? (d : Document σ) : Option Timestamp :=
  (d.number? Int64.minValue.toInt Int64.maxValue.toInt).map fun n => ⟨Int64.ofInt n⟩

theorem Timestamp.decode?_encode (t : Timestamp) : decode? t.encode = some t := by
  have low : Int64.minValue.toInt ≤ t.millis.toInt := t.millis.minValue_le_toInt
  have high : t.millis.toInt ≤ Int64.maxValue.toInt := t.millis.toInt_le
  simp only [decode?, encode, Document.number?, Scalar.number?, Option.filter, decide_eq_true low,
    decide_eq_true high, Bool.and_self, if_true, Option.map_some, Int64.ofInt_toInt]

/-! ## 2. Credentials and tokens -/

def Credentials.encode (c : Credentials) : Json :=
  .table [("user_id", c.userId.encode), ("password", Json.text c.password)]

def Credentials.decode? (d : Document σ) : Option Credentials := do
  let r ← d.record? ["user_id", "password"]
  return { userId := ← r.required "user_id" UserId.decode?,
           password := ← r.required "password" Document.text? }

theorem Credentials.decode?_encode (c : Credentials) : decode? c.encode = some c := rfl

def SessionToken.encode (t : SessionToken) : Json :=
  .table [("session_id", t.sessionId.encode), ("user_id", t.userId.encode)]

def SessionToken.decode? (d : Document σ) : Option SessionToken := do
  let r ← d.record? ["session_id", "user_id"]
  return { sessionId := ← r.required "session_id" SessionId.decode?,
           userId := ← r.required "user_id" UserId.decode? }

theorem SessionToken.decode?_encode (t : SessionToken) : decode? t.encode = some t := rfl

end AccessControl
