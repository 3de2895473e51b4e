/-
  AccessControl/Session/Mint.lean
  ===============================
  **Session ids.**

  A session id is a number and the salted digest of that number, with a colon
  between them.  Who knows the salt can tell such an id without having it on record,
  so an id goes on verifying after its session has ended.

  ## Main definitions

  * `SessionId.mint`: the session id of a number;
  * `SessionId.verifies`: the id has two parts, and the second is the digest of the
    first.

  ## Main statements

  * `verifies_mint`: what is minted verifies;
  * `verifies_iff`: what verifies is a text without a colon, the colon, and the digest
    of the text.
-/
import AccessControl.Digest.Salted
import AccessControl.Identity.Basic
import AccessControl.Text.Decimal
import AccessControl.Text.Split

namespace AccessControl

open Digest

namespace SessionId

def sealed (salt : Salt) (text : List Char) : List Char :=
  text ++ ':' :: (salt.digestText (String.ofList text)).toList

/-- The session id of a number. -/
def mint (salt : Salt) (nonce : UInt64) : SessionId :=
  ⟨String.ofList (sealed salt (Text.digits nonce.toNat))⟩

/-- The id has two parts, and the second is the digest of the first. -/
def verifies (salt : Salt) (id : SessionId) : Bool :=
  match Text.pieces ':' id.value.toList with
  | [text, digest] =>
    sameBytes (utf8 (salt.digestText (String.ofList text))) (utf8 (String.ofList digest))
  | _ => false

theorem colon_notMem_digestText (salt : Salt) (text : String) :
    ':' ∉ (salt.digestText text).toList := by
  intro h
  have := Salt.isHexDigit_of_mem_digestText h
  revert this
  decide

/-- What verifies is a text without a colon, the colon, and the digest of the text. -/
theorem verifies_iff {salt : Salt} {id : SessionId} :
    verifies salt id = true ↔
      ∃ text : List Char, ':' ∉ text ∧ id.value.toList = sealed salt text := by
  unfold verifies
  constructor
  · intro h
    split at h
    · next text digest parts =>
      have whole := Text.joined_pieces ':' id.value.toList
      have apart : ':' ∉ text :=
        Text.sep_notMem_of_mem_pieces (show text ∈ Text.pieces ':' id.value.toList by simp [parts])
      rw [parts] at whole
      have same := utf8_injective (sameBytes_iff.1 h)
      refine ⟨text, apart, ?_⟩
      rw [← whole, sealed, same, String.toList_ofList]
      rfl
    · simp at h
  · rintro ⟨text, apart, whole⟩
    rw [whole, sealed, Text.pieces_append_cons apart,
      Text.pieces_eq_singleton (colon_notMem_digestText salt _)]
    simp [sameBytes_iff]

/-- What is minted verifies. -/
theorem verifies_mint (salt : Salt) (nonce : UInt64) : verifies salt (mint salt nonce) = true := by
  refine verifies_iff.2 ⟨Text.digits nonce.toNat, fun h => ?_, by simp [mint]⟩
  have := Text.isDigit_of_mem_digits h
  revert this
  decide

end SessionId

end AccessControl
