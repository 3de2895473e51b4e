/-
  AccessControl/Digest/Salted.lean
  ================================
  **Salted digests.**

  Passwords and session ids are hashed behind a secret salt: the digest covers the
  bytes of the salt and then those of the data.  A salt has at least one byte.
  Digests are compared as texts, over their whole length, so that the time taken
  does not tell where two of them differ.

  ## Main definitions

  * `utf8 s`: the bytes of a text;
  * `Salt`, `Salt.make?`: a secret salt;
  * `Salt.digest`, `Salt.hashPassword`, `Salt.verifyPassword`;
  * `sameBytes`: comparison without an early end.

  ## Main statements

  * `sameBytes_iff`: it is equality;
  * `verifyPassword_iff`: a password matches its own digest only.
-/
import AccessControl.Digest.Hex
import AccessControl.Digest.Sha512
import AccessControl.Failure.Named

namespace AccessControl.Digest

/-! ## 1. Bytes of texts, and comparison -/

/-- The bytes of a text in UTF-8. -/
def utf8 (s : String) : List UInt8 := s.toUTF8.data.toList

theorem utf8_injective {s t : String} (h : utf8 s = utf8 t) : s = t := by
  have : s.toUTF8 = t.toUTF8 := ByteArray.ext (Array.ext' h)
  exact String.toByteArray_inj.1 this

def difference : List UInt8 → List UInt8 → UInt8
  | a :: as, b :: bs => (a ^^^ b) ||| difference as bs
  | _, _ => 0

/-- Two rows of bytes are the same: as long as each other, and nowhere different. -/
def sameBytes (a b : List UInt8) : Bool := a.length == b.length && difference a b == 0

theorem difference_eq_zero {a b : List UInt8} (h : a.length = b.length) :
    difference a b = 0 ↔ a = b := by
  induction a generalizing b with
  | nil =>
    cases b with
    | nil => simp [difference]
    | cons => simp at h
  | cons x xs ih =>
    cases b with
    | nil => simp at h
    | cons y ys =>
      have tail := ih (b := ys) (by simpa using h)
      simp only [difference, UInt8.or_eq_zero_iff, UInt8.xor_eq_zero_iff, tail, List.cons.injEq]

/-- The comparison is equality. -/
theorem sameBytes_iff {a b : List UInt8} : sameBytes a b = true ↔ a = b := by
  simp only [sameBytes, Bool.and_eq_true, beq_iff_eq]
  constructor
  · rintro ⟨length, zero⟩
    exact (difference_eq_zero length).1 zero
  · rintro rfl
    exact ⟨rfl, (difference_eq_zero rfl).2 rfl⟩

/-! ## 2. Salts -/

/-- A secret salt: at least one byte. -/
structure Salt where
  bytes : List UInt8
  nonempty : bytes ≠ []
deriving DecidableEq, Repr

namespace Salt

/-- The salt with these bytes; no bytes are no salt. -/
def make? (bytes : List UInt8) : Except Failure Salt :=
  if h : bytes = [] then .error Failure.missingSalt else .ok ⟨bytes, h⟩

/-- The digest of some data behind the salt. -/
def digest (s : Salt) (data : List UInt8) : List UInt8 := sha512 (s.bytes ++ data)

def digestText (s : Salt) (text : String) : String := String.ofList (hex (s.digest (utf8 text)))

/-- The digest of a password. -/
def hashPassword (s : Salt) (cleartext : String) : String := s.digestText cleartext

/-- The password has the stored digest. -/
def verifyPassword (s : Salt) (cleartext stored : String) : Bool :=
  sameBytes (utf8 (s.hashPassword cleartext)) (utf8 stored)

theorem length_digestText (s : Salt) (text : String) :
    (s.digestText text).toList.length = 128 := by
  simp only [digestText, String.toList_ofList, length_hex, digest, length_sha512]

theorem isHexDigit_of_mem_digestText {s : Salt} {text : String} {c : Char}
    (h : c ∈ (s.digestText text).toList) : IsHexDigit c :=
  isHexDigit_of_mem_hex (by simpa [digestText] using h)

/-- A password matches its own digest only. -/
theorem verifyPassword_iff {s : Salt} {cleartext stored : String} :
    s.verifyPassword cleartext stored = true ↔ stored = s.hashPassword cleartext := by
  unfold verifyPassword
  rw [sameBytes_iff]
  exact ⟨fun h => (utf8_injective h).symm, fun h => h ▸ rfl⟩

end Salt

end AccessControl.Digest
