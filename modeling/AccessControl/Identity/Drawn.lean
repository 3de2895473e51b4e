/-
  AccessControl/Identity/Drawn.lean
  =================================
  **Ids drawn at random.**

  The ids of new objects are random UUIDs of version 4.  They are drawn from some random
  bytes: the digest of the bytes and of a number gives the digits of the id with that
  number, apart from the two that tell version and variant.

  ## Main definitions

  * `uuidText`: the text of a UUID from its digits;
  * `ObjectId.drawn`: the id with a number.
-/
import AccessControl.Digest.Hex
import AccessControl.Digest.Sha512
import AccessControl.Identity.Basic
import AccessControl.Text.Split

namespace AccessControl

/-- The digit that tells the variant, in place of a random one. -/
def variantDigit (c : Char) : Char :=
  (['8', '9', 'a', 'b'][c.toNat % 4]?).getD '8'

/-- The text of a random UUID from 32 hexadecimal digits, of which the 13th gives way to
    the version and the 17th to the variant. -/
def uuidText (digits : List Char) : List Char :=
  let part (start count : Nat) : List Char := (digits.drop start).take count
  Text.joined '-'
    [part 0 8, part 8 4, '4' :: part 13 3, variantDigit (digits[16]?.getD '0') :: part 17 3,
     part 20 12]

/-- The id with a number, from random bytes. -/
def ObjectId.drawn (random : List UInt8) (n : Nat) : ObjectId :=
  let number := (List.range 8).map fun i => UInt8.ofNat (n / Nat.pow 256 i)
  ⟨String.ofList (uuidText (Digest.hex (Digest.sha512 (random ++ number))))⟩

end AccessControl
