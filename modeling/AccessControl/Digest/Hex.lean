/-
  AccessControl/Digest/Hex.lean
  =============================
  **Bytes as lower-case hexadecimal text.**

  Digests are shown, stored and compared in this form: two digits a byte, the high
  half first, letters in lower case.  A row of bytes has one such text.

  ## Main definitions

  * `hex bytes`: the text of a row of bytes;
  * `IsHexDigit c`: one of the sixteen digits that are written.

  ## Main statements

  * `length_hex`: two digits a byte;
  * `isHexDigit_of_mem_hex`: nothing but the sixteen digits is written;
  * `hex_injective`: different bytes have different texts.
-/

namespace AccessControl.Digest

def hexDigit (n : Nat) : Char :=
  if n < 10 then Char.ofNat (48 + n) else Char.ofNat (87 + n)

def hexByte (b : UInt8) : List Char := [hexDigit (b.toNat / 16), hexDigit (b.toNat % 16)]

/-- The lower-case hexadecimal text of a row of bytes. -/
def hex (bytes : List UInt8) : List Char := bytes.flatMap hexByte

/-- One of the digits that `hex` writes: `0` to `9` and `a` to `f`. -/
def IsHexDigit (c : Char) : Prop := ('0' ≤ c ∧ c ≤ '9') ∨ ('a' ≤ c ∧ c ≤ 'f')

instance (c : Char) : Decidable (IsHexDigit c) := by unfold IsHexDigit; infer_instance

/-- A text has two digits for every byte. -/
theorem length_hex (bytes : List UInt8) : (hex bytes).length = 2 * bytes.length := by
  induction bytes with
  | nil => rfl
  | cons b bs ih =>
    simp only [hex, List.flatMap_cons, List.length_append, List.length_cons] at ih ⊢
    simp only [ih, hexByte, List.length_cons, List.length_nil]; omega

theorem isHexDigit_hexDigit {n : Nat} (h : n < 16) : IsHexDigit (hexDigit n) := by
  revert n; decide

/-- Nothing but the sixteen digits is written. -/
theorem isHexDigit_of_mem_hex {bytes : List UInt8} {c : Char} (h : c ∈ hex bytes) :
    IsHexDigit c := by
  obtain ⟨b, _, hc⟩ := List.mem_flatMap.1 h
  have hb : b.toNat < 256 := b.toNat_lt
  rcases List.mem_cons.1 hc with rfl | hc
  · exact isHexDigit_hexDigit (by omega)
  · rcases List.mem_cons.1 hc with rfl | hc
    · exact isHexDigit_hexDigit (by omega)
    · simp at hc

theorem hexDigit_injective {m n : Nat} (hm : m < 16) (hn : n < 16)
    (h : hexDigit m = hexDigit n) : m = n := by
  have table : ∀ m < 16, ∀ n < 16, hexDigit m = hexDigit n → m = n := by decide
  exact table m hm n hn h

/-- Different bytes have different texts. -/
theorem hex_injective {as bs : List UInt8} (h : hex as = hex bs) : as = bs := by
  induction as generalizing bs with
  | nil =>
    cases bs with
    | nil => rfl
    | cons b bs => simp [hex, hexByte] at h
  | cons a as ih =>
    cases bs with
    | nil => simp [hex, hexByte] at h
    | cons b bs =>
      simp only [hex, List.flatMap_cons, hexByte, List.cons_append, List.nil_append,
        List.cons.injEq] at h
      have ha := a.toNat_lt
      have hb := b.toNat_lt
      have high := hexDigit_injective (by omega) (by omega) h.1
      have low := hexDigit_injective (by omega) (by omega) h.2.1
      rw [UInt8.toNat_inj.1 (by omega : a.toNat = b.toNat), ih h.2.2]

end AccessControl.Digest
