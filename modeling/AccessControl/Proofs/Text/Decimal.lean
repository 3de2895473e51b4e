/-
  AccessControl/Proofs/Text/Decimal.lean
  ======================================
  **Decimal forms.**

  A number has one decimal form: a row of digits, at least one of them, with no zero in front
  of others.  Session ids are minted with such a row in front, and the readers of documents
  take no other for a whole number.

  ## Main definitions

  * `IsDecimal`: a row of digits as numbers are written.

  ## Main statements

  * `isDecimal_iff`: these are the rows that numbers are written with;
  * `inRadix?_digits`: they are read back in radix ten.
-/
import AccessControl.Text.Decimal
import Mathlib.Data.List.Basic
import Mathlib.Data.List.Induction

namespace AccessControl.Text

variable {cs : List Char}

/-! ## 1. Rows of digits -/

/-- A row of digits as numbers are written: at least one, and no zero in front of others. -/
structure IsDecimal (cs : List Char) : Prop where
  nonempty : cs ≠ []
  digit : ∀ c ∈ cs, isDigit c = true
  lead : cs.head? = some '0' → cs = ['0']

theorem digitValue_lt {c : Char} (h : isDigit c = true) : digitValue c < 10 := by
  simp only [isDigit, Bool.and_eq_true, decide_eq_true_eq] at h
  simp only [digitValue]
  omega

theorem digitChar_digitValue {c : Char} (h : isDigit c = true) : digitChar (digitValue c) = c := by
  simp only [isDigit, Bool.and_eq_true, decide_eq_true_eq] at h
  have code : 48 + (c.toNat - 48) = c.toNat := by omega
  simp [digitChar, digitValue, code, Char.ofNat_toNat]

theorem readDigits_concat (cs : List Char) (c : Char) :
    readDigits (cs ++ [c]) = 10 * readDigits cs + digitValue c := by
  simp [readDigits]

theorem digits_of_lt {n : Nat} (h : n < 10) : digits n = [digitChar n] := by
  rw [digits, dif_pos h]

theorem digits_of_le {n : Nat} (h : 10 ≤ n) :
    digits n = digits (n / 10) ++ [digitChar (n % 10)] := by
  rw [digits, dif_neg (by omega)]

theorem isDecimal_digits (n : Nat) : IsDecimal (digits n) := by
  refine ⟨digits_ne_nil n, fun c hc => isDigit_of_mem_digits hc, ?_⟩
  fun_induction digits n with
  | case1 n _ =>
    intro lead
    simpa using lead
  | case2 n more ih =>
    intro lead
    rw [List.head?_append_of_ne_nil _ (digits_ne_nil _)] at lead
    -- only zero is written with a zero in front, and there are tens here
    have zero : n / 10 = 0 := by
      rw [← readDigits_digits (n / 10), ih lead]
      rfl
    omega

theorem digits_readDigits (h : IsDecimal cs) : digits (readDigits cs) = cs := by
  -- by induction on the digits, from the last one on
  induction cs using List.reverseRecOn with
  | nil => exact absurd rfl h.nonempty
  | append_singleton front c ih =>
    have isDigit : isDigit c = true := h.digit c (by simp)
    have small := digitValue_lt isDigit
    by_cases alone : front = []
    · subst alone
      have value : readDigits ([] ++ [c]) = digitValue c := by simp [readDigits]
      rw [value, digits_of_lt small, digitChar_digitValue isDigit]
      rfl
    · have noZero : front.head? ≠ some '0' := by
        intro zero
        have whole := h.lead ((List.head?_append_of_ne_nil _ alone).trans zero)
        have length := congrArg List.length whole
        have := List.length_pos_iff.2 alone
        simp only [List.length_append, List.length_singleton] at length
        omega
      have decimal : IsDecimal front :=
        ⟨alone, fun d hd => h.digit d (by simp [hd]), fun zero => absurd zero noZero⟩
      have written := ih decimal
      have positive : 1 ≤ readDigits front := by
        refine Nat.pos_of_ne_zero fun zero => noZero ?_
        rw [zero] at written
        rw [← written, digits_of_lt (by decide)]
        rfl
      rw [readDigits_concat, digits_of_le (by omega)]
      have tens : (10 * readDigits front + digitValue c) / 10 = readDigits front := by omega
      have units : (10 * readDigits front + digitValue c) % 10 = digitValue c := by omega
      rw [tens, units, written, digitChar_digitValue isDigit]

theorem isDecimal_iff : IsDecimal cs ↔ ∃ n, digits n = cs := by
  constructor
  · intro h
    exact ⟨readDigits cs, digits_readDigits h⟩
  · rintro ⟨n, rfl⟩
    exact isDecimal_digits n

/-! ## 2. Reading in radix ten -/

theorem hexValue?_of_isDigit {c : Char} (digit : isDigit c = true) :
    hexValue? c = some (digitValue c) := by
  simp only [isDigit, Bool.and_eq_true, decide_eq_true_eq] at digit
  have low : '0' ≤ c := digit.1
  have high : c ≤ '9' := digit.2
  rw [hexValue?, if_pos ⟨low, high⟩, digitValue]

theorem digitsInRadix?_ten (n : Nat) (digit : ∀ c ∈ cs, isDigit c = true) :
    digitsInRadix? 10 n cs = some (cs.foldl (fun n c => 10 * n + digitValue c) n) := by
  induction cs generalizing n with
  | nil => rfl
  | cons c cs ih =>
    have first := digit c (by simp)
    rw [digitsInRadix?, hexValue?_of_isDigit first]
    simp only
    rw [if_pos (digitValue_lt first), ih _ fun d hd => digit d (by simp [hd]), List.foldl_cons]

theorem inRadix?_digits (n : Nat) : inRadix? 10 (digits n) = some n := by
  have value := readDigits_digits n
  have read := digitsInRadix?_ten 0 fun c (hc : c ∈ digits n) => isDigit_of_mem_digits hc
  rw [readDigits] at value
  rw [value] at read
  simp [inRadix?, digits_ne_nil, read]

end AccessControl.Text
