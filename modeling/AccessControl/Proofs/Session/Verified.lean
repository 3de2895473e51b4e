/-
  AccessControl/Proofs/Session/Verified.lean
  ==========================================
  **Which session ids verify.**

  An id verifies if it has one colon and what stands behind the colon is the salted digest of
  what stands in front of it.  So there is exactly one id for every text without a colon, and
  nothing about the digest can be changed: not a letter, not its case, not its length.

  The gate only ever mints ids of numbers, but the check does not ask for a number in front of
  the colon.  It asks for the digest, and whoever has the salted digest of a text has an id that
  verifies.  Passwords are stored as digests under the same salt, so a password that has no
  colon makes such an id together with its own stored digest (`digest_serves_as_session`).  The
  ids that were minted are those with the decimal form of a word in front (`minted_iff`).

  ## Main statements

  * `SessionId.minted_iff`: which ids are minted;
  * `SessionId.verifies_iff_count`, `SessionId.verifies_mint_iff`: one colon and a digest, and
    ids that were minted under another salt;
  * `sealed_ids_verify`: ids that verify, ids that are minted, and digests of passwords;
  * `mint_verify_law`: what the check accepts.
-/
import AccessControl.Proofs.Session.Own
import AccessControl.Proofs.Text.Decimal
import Mathlib.Logic.ExistsUnique

namespace AccessControl

open Digest

/-! ## 1. Ids that verify, and ids that are minted -/

namespace SessionId

variable {salt : Salt}

theorem eq_of_toList {id id' : SessionId} (h : id.value.toList = id'.value.toList) : id = id' := by
  cases id
  cases id'
  exact congrArg SessionId.mk (String.toList_injective h)

theorem verifies_parts_iff (text hash : List Char) :
    verifies salt ⟨String.ofList (text ++ ':' :: hash)⟩ = true ↔
      ':' ∉ text ∧ hash = hex (sha512 (salt.bytes ++ utf8 (String.ofList text))) := by
  have digest (text : List Char) : (salt.digestText (String.ofList text)).toList =
      hex (sha512 (salt.bytes ++ utf8 (String.ofList text))) := String.toList_ofList
  rw [verifies_iff]
  simp only [String.toList_ofList, sealed, digest]
  constructor
  · rintro ⟨text', apart, whole⟩
    -- the digest has no colon, so both cuts are at the first one
    have last : ':' ∉ hex (sha512 (salt.bytes ++ utf8 (String.ofList text'))) := by
      rw [← digest]
      exact colon_notMem_digestText salt _
    by_cases before : ':' ∈ text
    · have counts := congrArg (List.count ':') whole
      simp only [List.count_append, List.count_cons_self, List.count_eq_zero.2 apart,
        List.count_eq_zero.2 last] at counts
      have := List.count_pos_iff.2 before
      omega
    · have cuts := congrArg (Text.cut ':') whole
      rw [Text.cut_eq_some.2 ⟨rfl, before⟩, Text.cut_eq_some.2 ⟨rfl, apart⟩] at cuts
      obtain ⟨rfl, rfl⟩ := Prod.mk.inj (Option.some.inj cuts)
      exact ⟨before, rfl⟩
  · rintro ⟨apart, rfl⟩
    exact ⟨text, apart, rfl⟩

theorem minted_iff {id : SessionId} :
    (∃ nonce, id = mint salt nonce) ↔
      ∃ text, Text.IsDecimal text ∧ Text.readDigits text < UInt64.size ∧
        id.value.toList = sealed salt text := by
  constructor
  · rintro ⟨nonce, rfl⟩
    refine ⟨Text.digits nonce.toNat, Text.isDecimal_digits _, ?_, String.toList_ofList⟩
    rw [Text.readDigits_digits]
    exact nonce.toNat_lt
  · rintro ⟨text, decimal, small, whole⟩
    refine ⟨UInt64.ofNat (Text.readDigits text), eq_of_toList ?_⟩
    have nonce : (UInt64.ofNat (Text.readDigits text)).toNat = Text.readDigits text :=
      UInt64.toNat_ofNat_of_lt' small
    rw [whole, mint, String.toList_ofList, nonce, Text.digits_readDigits decimal]

theorem toList_mint (nonce : UInt64) :
    (mint salt nonce).value.toList = Text.digits nonce.toNat ++
      ':' :: hex (sha512 (salt.bytes ++ utf8 (String.ofList (Text.digits nonce.toNat)))) := by
  simp only [mint, sealed, Salt.digestText, String.toList_ofList]
  rfl

/-- An id that verifies has one colon, and the digest behind it. -/
theorem verifies_iff_count {id : SessionId} :
    id.verifies salt = true ↔ id.value.toList.count ':' = 1 ∧ ∃ before after,
      id.value.toList = before ++ ':' :: after ∧
      after = hex (sha512 (salt.bytes ++ utf8 (String.ofList before))) := by
  constructor
  · intro valid
    obtain ⟨before, apart, whole⟩ := verifies_iff.1 valid
    have after : (salt.digestText (String.ofList before)).toList =
        hex (sha512 (salt.bytes ++ utf8 (String.ofList before))) := String.toList_ofList
    refine ⟨?_, before, _, whole, after⟩
    rw [whole, sealed, List.count_append, List.count_cons_self, List.count_eq_zero.2 apart,
      List.count_eq_zero.2 (colon_notMem_digestText salt _)]
  · rintro ⟨once, before, after, whole, same⟩
    have apart : ':' ∉ before := by
      rw [whole, List.count_append, List.count_cons_self] at once
      exact List.count_eq_zero.1 (by omega)
    have parts : id = ⟨String.ofList (before ++ ':' :: after)⟩ :=
      eq_of_toList (by rw [whole, String.toList_ofList])
    rw [parts]
    exact (verifies_parts_iff before after).2 ⟨apart, same⟩

/-- An id that was minted under one salt is only as good under another as its digest. -/
theorem verifies_mint_iff (a b : Salt) (nonce : UInt64) :
    (mint a nonce).verifies b = true ↔
      sha512 (a.bytes ++ utf8 (String.ofList (Text.digits nonce.toNat))) =
        sha512 (b.bytes ++ utf8 (String.ofList (Text.digits nonce.toNat))) := by
  have parts : mint a nonce = ⟨String.ofList (Text.digits nonce.toNat ++
      ':' :: hex (sha512 (a.bytes ++ utf8 (String.ofList (Text.digits nonce.toNat)))))⟩ :=
    eq_of_toList (by rw [toList_mint, String.toList_ofList])
  rw [parts, verifies_parts_iff]
  constructor
  · rintro ⟨_, same⟩
    exact hex_injective same
  · intro same
    exact ⟨colon_notMem_digits _, congrArg hex same⟩

end SessionId

/-! ## 2. What the check accepts -/

/-- An id verifies exactly if it is a text without a colon, the colon, and the salted digest of
    the text.  The ids that are minted are those in which the text is the decimal form of a
    number of 64 bits.  A password, a colon and the stored digest of the password verify exactly
    if the password has no colon. -/
theorem sealed_ids_verify (salt : Salt) (id : SessionId) (password : String) :
    (id.verifies salt = true ↔
      ∃ text, ':' ∉ text ∧ id.value.toList = SessionId.sealed salt text) ∧
    ((∃ nonce, id = .mint salt nonce) ↔
      ∃ text, Text.IsDecimal text ∧ Text.readDigits text < UInt64.size ∧
        id.value.toList = SessionId.sealed salt text) ∧
    (SessionId.verifies salt ⟨password ++ ":" ++ salt.hashPassword password⟩ = true ↔
      ':' ∉ password.toList) := by
  refine ⟨SessionId.verifies_iff, SessionId.minted_iff, ?_⟩
  have parts : password ++ ":" ++ salt.hashPassword password =
      String.ofList (password.toList ++ ':' :: (salt.hashPassword password).toList) := by
    apply String.toList_injective
    simp
  have own : (salt.hashPassword password).toList =
      hex (sha512 (salt.bytes ++ utf8 (String.ofList password.toList))) := by
    rw [String.ofList_toList]
    exact String.toList_ofList
  rw [parts, SessionId.verifies_parts_iff]
  exact ⟨fun h => h.1, fun apart => ⟨apart, own⟩⟩

/-- A password and its own stored digest make an id that verifies and that no number has. -/
theorem digest_serves_as_session :
    let salt : Salt := ⟨utf8 "world-salt", by decide⟩
    let id : SessionId := ⟨"secret" ++ ":" ++ salt.hashPassword "secret"⟩
    id.verifies salt = true ∧ ∀ nonce, id ≠ .mint salt nonce := by
  intro salt id
  have verifies : id.verifies salt = true := by
    refine SessionId.verifies_iff.2 ⟨"secret".toList, by decide, ?_⟩
    simp [id, SessionId.sealed, Salt.hashPassword]
  refine ⟨verifies, fun nonce same => ?_⟩
  -- the first character of the id of a number is a digit
  have first := congrArg (·.value.toList.head?) same
  have front : id.value.toList.head? = some 's' := by simp [id]
  rw [front, SessionId.mint, String.toList_ofList, SessionId.sealed,
    List.head?_append_of_ne_nil _ (Text.digits_ne_nil _)] at first
  have := Text.isDigit_of_mem_digits (List.mem_of_mem_head? first.symm)
  revert this
  decide

/-- The id of a number is its decimal form, a colon, and 128 lower-case hexadecimal digits, and it
    verifies.  In general an id verifies exactly if it has one colon and the digest of what stands
    in front of the colon stands behind it; so for every text without a colon there is one digest
    that makes it verify, and all others are turned down, among them whatever does not consist of
    128 lower-case hexadecimal digits.  An id that was minted under another salt verifies exactly
    if its number has the same digest under both salts. -/
theorem mint_verify_law (a b : Salt) (nonce : UInt64) (id : SessionId) (text : List Char) :
    let digits := Text.digits nonce.toNat
    let digest (salt : Salt) (text : List Char) := sha512 (salt.bytes ++ utf8 (String.ofList text))
    (SessionId.mint a nonce).value.toList = digits ++ ':' :: hex (digest a digits) ∧
    Text.IsDecimal digits ∧ Text.readDigits digits = nonce.toNat ∧
    (SessionId.mint a nonce).verifies a = true ∧
    (id.verifies a = true ↔ id.value.toList.count ':' = 1 ∧ ∃ before after,
      id.value.toList = before ++ ':' :: after ∧ after = hex (digest a before)) ∧
    ((∃! hash, SessionId.verifies a ⟨String.ofList (text ++ ':' :: hash)⟩ = true) ↔ ':' ∉ text) ∧
    (∀ hash, SessionId.verifies a ⟨String.ofList (text ++ ':' :: hash)⟩ = true →
      hash.length = 128 ∧ ∀ c ∈ hash, IsHexDigit c) ∧
    ((SessionId.mint a nonce).verifies b = true ↔ digest a digits = digest b digits) := by
  intro digits digest
  refine ⟨SessionId.toList_mint nonce, Text.isDecimal_digits _, Text.readDigits_digits _,
    SessionId.verifies_mint a nonce, SessionId.verifies_iff_count, ?_, ?_,
    SessionId.verifies_mint_iff a b nonce⟩
  · simp only [SessionId.verifies_parts_iff]
    constructor
    · rintro ⟨_, ⟨apart, _⟩, _⟩
      exact apart
    · intro apart
      exact ⟨_, ⟨apart, rfl⟩, fun hash h => h.2⟩
  · intro hash valid
    obtain ⟨-, rfl⟩ := (SessionId.verifies_parts_iff text hash).1 valid
    refine ⟨?_, fun c hc => isHexDigit_of_mem_hex hc⟩
    rw [length_hex, length_sha512]

/-- The hash of an id that verifies has 128 digits. -/
theorem mint_verify_law_sample :
    let salt : Salt := ⟨utf8 "world-salt", by decide⟩
    let text := "secret".toList
    let hash := hex (sha512 (salt.bytes ++ utf8 (String.ofList text)))
    SessionId.verifies salt ⟨String.ofList (text ++ ':' :: hash)⟩ = true ∧ hash.length = 128 := by
  intro salt text hash
  have valid : SessionId.verifies salt ⟨String.ofList (text ++ ':' :: hash)⟩ = true :=
    (SessionId.verifies_parts_iff text hash).2 ⟨by decide, rfl⟩
  obtain ⟨-, -, -, -, -, -, shape, -⟩ := mint_verify_law salt salt 0 ⟨""⟩ text
  exact ⟨valid, (shape hash valid).1⟩

end AccessControl
