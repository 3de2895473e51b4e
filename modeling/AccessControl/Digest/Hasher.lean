/-
  AccessControl/Digest/Hasher.lean
  ================================
  **SHA-512 of bytes that come in portions.**

  Content need not be at hand as a whole to be digested.  A hasher mixes every block into its
  state as soon as it is full, and keeps the bytes that fill no block yet and the count of all
  bytes, which the padding at the end asks for.  The portions may be of any size, and need not
  end where blocks do.

  ## Main definitions

  * `whole bytes`, `beyond bytes`: the full blocks of a row of bytes, and the bytes behind them;
  * `Hasher`: a digest that is being computed;
  * `Hasher.start`, `Hasher.update`, `Hasher.finish`: its beginning, one more portion, its end;
  * `padding length`: what is put behind that many bytes.

  ## Main statements

  * `whole_append`, `beyond_append`: full blocks do not depend on what stands behind them;
  * `padded_eq`: the padding of a message depends on its length alone.
-/
import AccessControl.Digest.Sha512

namespace AccessControl.Digest

/-! ## 1. Full blocks -/

/-- The bytes in the full blocks of a row. -/
def whole (bytes : List UInt8) : List UInt8 := bytes.take (128 * (bytes.length / 128))

/-- The bytes behind the full blocks. -/
def beyond (bytes : List UInt8) : List UInt8 := bytes.drop (128 * (bytes.length / 128))

theorem whole_append_beyond (bytes : List UInt8) : whole bytes ++ beyond bytes = bytes :=
  List.take_append_drop _ bytes

theorem length_whole (bytes : List UInt8) :
    (whole bytes).length = 128 * (bytes.length / 128) := by
  rw [whole, List.length_take]
  omega

theorem length_beyond (bytes : List UInt8) : (beyond bytes).length = bytes.length % 128 := by
  rw [beyond, List.length_drop]
  omega

theorem fullLength_append (front back : List UInt8) :
    128 * ((front ++ back).length / 128) =
      (whole front).length + 128 * ((beyond front ++ back).length / 128) := by
  rw [length_whole, List.length_append, List.length_append, length_beyond]
  omega

/-- The full blocks of a row are still there when bytes are added. -/
theorem whole_append (front back : List UInt8) :
    whole (front ++ back) = whole front ++ whole (beyond front ++ back) := by
  have split : front ++ back = whole front ++ (beyond front ++ back) := by
    rw [← List.append_assoc, whole_append_beyond]
  rw [whole, fullLength_append, split, List.take_length_add_append]
  rfl

theorem beyond_append (front back : List UInt8) :
    beyond (front ++ back) = beyond (beyond front ++ back) := by
  have split : front ++ back = whole front ++ (beyond front ++ back) := by
    rw [← List.append_assoc, whole_append_beyond]
  rw [beyond, fullLength_append, split, List.drop_length_add_append]
  rfl

/-! ## 2. Padding -/

/-- What is put behind so many bytes: a one bit, zeros, and the number of bits. -/
def padding (length : Nat) : List UInt8 :=
  0x80 :: List.replicate ((239 - length % 128) % 128) 0
    ++ wordBytes (UInt64.ofNat (8 * length / UInt64.size)) ++ wordBytes (UInt64.ofNat (8 * length))

/-- The padding of a message depends on its length alone. -/
theorem padded_eq (message : List UInt8) : padded message = message ++ padding message.length := by
  simp only [padded, padding, List.append_assoc]

/-! ## 3. Hashers -/

/-- A digest that is being computed. -/
structure Hasher where
  state : State
  pending : List UInt8
  length : Nat
  pending_lt : pending.length < 128
deriving DecidableEq, Repr

namespace Hasher

def start : Hasher :=
  { state := State.first, pending := [], length := 0, pending_lt := by decide }

def update (h : Hasher) (portion : List UInt8) : Hasher :=
  { state := (blocks (whole (h.pending ++ portion))).foldl compress h.state
    pending := beyond (h.pending ++ portion)
    length := h.length + portion.length
    pending_lt := by rw [length_beyond]; exact Nat.mod_lt _ (by decide) }

/-- The digest of all bytes. -/
def finish (h : Hasher) : List UInt8 :=
  ((blocks (h.pending ++ padding h.length)).foldl compress h.state).bytes

end Hasher

end AccessControl.Digest
