/-
  AccessControl/Proofs/Json/Scalars.lean
  ======================================
  **A scalar is read back from its text.**

  A literal ends at its closing quote, whatever stands behind it.  A number does not: its reader
  goes on as long as it finds digits, a fraction or an exponent.  So a number is read back where
  none of these can follow, and that is so wherever the printer puts one.

  Two kinds of numbers are left out.  A whole number beyond 64 bits is read as a double, and of
  a double only the text is known here.

  ## Main definitions

  * `JsonScalar.Fits`: the scalars that are read back;
  * `Json.EndsNumber`: texts that no number reaches into.

  ## Main statements

  * `literal?_escaped`: a literal is read back;
  * `number?_intText`: a whole number is read back;
  * `scalar?_scalarText`: a scalar is read back.
-/
import AccessControl.Json.Parser
import AccessControl.Json.Printer
import AccessControl.Proofs.Text.Decimal
import Mathlib.Data.Option.Basic

namespace AccessControl

/-- A scalar that is read back from its text: not a double, and if it is a whole number, one
    of 64 bits. -/
def JsonScalar.Fits : JsonScalar → Prop
  | .int n => Int64.minValue.toInt ≤ n ∧ n ≤ Json.significandLimit
  | .float _ => False
  | _ => True

namespace Json

open Text

variable {c : Char} {cs rest : List Char}

/-! ## 1. Literals -/

/-- A character stands in a literal behind a backslash, by its short name or its code, or by
    itself. -/
theorem escapeChar_cases (c : Char) :
    (∃ e, escapeChar c = ['\\', e] ∧ shortEscape? e = some c ∧ e ≠ 'u') ∨
    (c.toNat < 0x20 ∧ escapeChar c = ['\\', 'u', '0', '0', Nat.digitChar (c.toNat / 16),
      Nat.digitChar (c.toNat % 16)]) ∨
    (0x20 ≤ c.toNat ∧ c ≠ '"' ∧ c ≠ '\\' ∧ escapeChar c = [c]) := by
  by_cases short : c ∈ ['"', '\\', '\x08', '\x0c', '\n', '\r', '\t']
  · left
    simp only [List.mem_cons, List.not_mem_nil, or_false] at short
    rcases short with rfl | rfl | rfl | rfl | rfl | rfl | rfl
    all_goals exact ⟨_, rfl, rfl, by decide⟩
  · right
    simp only [List.mem_cons, List.not_mem_nil, or_false, not_or] at short
    by_cases control : c.toNat < 0x20
    · exact .inl ⟨control, by simp [escapeChar, short, control]⟩
    · exact .inr ⟨by omega, short.1, short.2.1, by simp [escapeChar, short, control]⟩

theorem codeUnit?_digitChar {n : Nat} (control : n < 0x20) :
    codeUnit? '0' '0' (Nat.digitChar (n / 16)) (Nat.digitChar (n % 16)) = some n := by
  revert n
  decide

theorem literal?_short {e : Char} (short : shortEscape? e = some c) (name : e ≠ 'u') :
    literal? ('\\' :: e :: rest) = (literal? rest).map (prepend (some c)) := by
  rw [literal?, short]
  · cases literal? rest <;> rfl
  · simp [name]

theorem literal?_control (control : c.toNat < 0x20) :
    literal? ('\\' :: 'u' :: '0' :: '0' :: Nat.digitChar (c.toNat / 16)
        :: Nat.digitChar (c.toNat % 16) :: rest)
      = (literal? rest).map (prepend (some c)) := by
  have leading : isLeading c.toNat = false := by
    simp only [isLeading, Bool.and_eq_false_imp, decide_eq_true_eq, decide_eq_false_iff_not]
    omega
  have trailing : isTrailing c.toNat = false := by
    simp only [isTrailing, Bool.and_eq_false_imp, decide_eq_true_eq, decide_eq_false_iff_not]
    omega
  rw [literal?, codeUnit?_digitChar control]
  simp only [Option.bind_eq_bind, Option.bind_some, leading, trailing, Bool.false_eq_true,
    if_false, Char.ofNat_toNat]
  cases literal? rest <;> rfl

theorem literal?_cons (printed : 0x20 ≤ c.toNat) (quote : c ≠ '"') (backslash : c ≠ '\\') :
    literal? (c :: rest) = (literal? rest).map (prepend (some c)) := by
  rw [literal?]
  · rw [guard, if_pos ⟨printed, backslash⟩]
    cases literal? rest <;> rfl
  · simp [quote]
  · simp [backslash]
  · simp [backslash]

theorem literal?_escapeChar (c : Char) (rest : List Char) :
    literal? (escapeChar c ++ rest) = (literal? rest).map (prepend (some c)) := by
  obtain ⟨e, text, short, name⟩ | ⟨control, text⟩ | ⟨printed, quote, backslash, text⟩ :=
    escapeChar_cases c
  · rw [text]
    exact literal?_short short name
  · rw [text]
    exact literal?_control control
  · rw [text]
    exact literal?_cons printed quote backslash

theorem literal?_escaped (cs rest : List Char) :
    literal? (cs.flatMap escapeChar ++ '"' :: rest) = some (some cs, rest) := by
  induction cs with
  | nil => rfl
  | cons c cs ih => simp [literal?_escapeChar, ih, prepend]

/-! ## 2. Whole numbers -/

/-- A text that no number in front of it reaches into. -/
def EndsNumber (rest : List Char) : Prop :=
  ∀ c ∈ rest.head?, isDigit c = false ∧ c ≠ '.' ∧ c ≠ 'e' ∧ c ≠ 'E'

theorem le_foldl_digits (n : Nat) (cs : List Char) :
    n ≤ cs.foldl (fun n c => 10 * n + digitValue c) n := by
  induction cs generalizing n with
  | nil => exact Nat.le_refl n
  | cons c cs ih => exact Nat.le_trans (by omega) (ih (10 * n + digitValue c))

theorem gather_eq {n : Nat}
    (fits : cs.foldl (fun n c => 10 * n + digitValue c) n ≤ significandLimit) :
    gather n cs = (cs.foldl (fun n c => 10 * n + digitValue c) n, 0) := by
  induction cs generalizing n with
  | nil => rfl
  | cons c cs ih =>
    have first : 10 * n + digitValue c ≤ significandLimit :=
      Nat.le_trans (le_foldl_digits _ cs) fits
    rw [gather, if_pos first, ih fits, List.foldl_cons]

theorem gather_digits {n : Nat} (fits : n ≤ significandLimit) : gather 0 (digits n) = (n, 0) := by
  have value : (digits n).foldl (fun n c => 10 * n + digitValue c) 0 = n := readDigits_digits n
  rw [gather_eq (by rw [value]; exact fits), value]

theorem takeWhile_digits (n : Nat) (ends : EndsNumber rest) :
    (digits n ++ rest).takeWhile isDigit = digits n := by
  rw [List.takeWhile_append_of_pos fun c hc => isDigit_of_mem_digits hc]
  cases rest with
  | nil => simp
  | cons c rest => simp [(ends c rfl).1]

theorem dropWhile_digits (n : Nat) (ends : EndsNumber rest) :
    (digits n ++ rest).dropWhile isDigit = rest := by
  rw [List.dropWhile_append_of_pos fun c hc => isDigit_of_mem_digits hc]
  cases rest with
  | nil => simp
  | cons c rest => simp [(ends c rfl).1]

theorem fraction?_of_ends (ends : EndsNumber rest) : fraction? rest = some (none, rest) := by
  unfold fraction?
  split
  · exact absurd rfl (ends '.' rfl).2.1
  · rfl

theorem power?_of_ends (ends : EndsNumber rest) : power? rest = some (none, rest) := by
  unfold power?
  split
  · exact absurd rfl (ends 'e' rfl).2.2.1
  · exact absurd rfl (ends 'E' rfl).2.2.2
  · rfl

theorem minus_intText (n : Int) (rest : List Char) :
    minus (intText n ++ rest) = (decide (n < 0), digits n.natAbs ++ rest) := by
  unfold intText
  split
  · next below => simp [minus, below]
  · next above =>
    unfold minus
    split
    · next tail whole =>
      -- the first digit would be a minus
      have first := congrArg List.head? whole
      rw [List.head?_append_of_ne_nil _ (digits_ne_nil _)] at first
      have digit := isDigit_of_mem_digits (List.mem_of_head? first)
      exact absurd digit (by decide)
    · simp [above]

theorem whole?_natAbs {n : Int} (low : Int64.minValue.toInt ≤ n) :
    whole? (decide (n < 0)) n.natAbs = some n := by
  unfold whole?
  by_cases below : n < 0
  · have value : -(n.natAbs : Int) = n := by omega
    have fits : 0 < n.natAbs ∧ Int64.minValue.toInt ≤ -Int.ofNat n.natAbs :=
      ⟨by omega, le_of_le_of_eq low value.symm⟩
    rw [decide_eq_true below, if_neg (by simp), if_pos fits, value]
  · have value : (n.natAbs : Int) = n := by omega
    rw [decide_eq_false below, if_pos (by simp), value]

theorem number?_intText {n : Int} (fits : (JsonScalar.int n).Fits) (ends : EndsNumber rest) :
    number? (intText n ++ rest) = some (some (.int n), rest) := by
  obtain ⟨low, high⟩ := fits
  have decimal := isDecimal_digits n.natAbs
  have small : n.natAbs ≤ significandLimit := by
    simp [significandLimit] at *
    omega
  have lead : digits n.natAbs ≠ [] ∧
      ((digits n.natAbs).head? = some '0' → (digits n.natAbs).length = 1) :=
    ⟨decimal.nonempty, fun zero => by rw [decimal.lead zero]; rfl⟩
  unfold number?
  rw [minus_intText]
  dsimp only
  rw [takeWhile_digits _ ends, dropWhile_digits _ ends, guard, if_pos lead, gather_digits small,
    fraction?_of_ends ends]
  simp [power?_of_ends ends, whole?_natAbs low]

/-! ## 3. Scalars -/

def OpensScalar (c : Char) : Prop :=
  isBlank c = false ∧ c ≠ '[' ∧ c ≠ '\x7b' ∧ c ≠ ']' ∧ c ≠ '\x7d'

theorem exists_intText (n : Int) :
    ∃ c cs, intText n = c :: cs ∧ (c = '-' ∨ isDigit c = true) := by
  unfold intText
  split
  · exact ⟨'-', _, rfl, .inl rfl⟩
  · obtain ⟨c, cs, text⟩ := List.exists_cons_of_ne_nil (digits_ne_nil n.natAbs)
    have first : c ∈ digits n.natAbs := by simp [text]
    exact ⟨c, cs, text, .inr (isDigit_of_mem_digits first)⟩

theorem scalar?_eq_number? (first : c = '-' ∨ isDigit c = true) :
    scalar? (c :: cs) = number? (c :: cs) := by
  have differ (d : Char) (other : d ≠ '-' ∧ isDigit d = false) : c ≠ d := by
    rintro rfl
    rcases first with rfl | digit
    · exact other.1 rfl
    · rw [digit] at other
      cases other.2
  unfold scalar?
  split
  · next whole => exact absurd (List.cons.inj whole).1 (differ 'n' (by decide))
  · next whole => exact absurd (List.cons.inj whole).1 (differ 't' (by decide))
  · next whole => exact absurd (List.cons.inj whole).1 (differ 'f' (by decide))
  · next whole => exact absurd (List.cons.inj whole).1 (differ '"' (by decide))
  · rfl

theorem exists_scalarText {s : JsonScalar} (fits : s.Fits) :
    ∃ c cs, scalarText s = c :: cs ∧ OpensScalar c := by
  unfold OpensScalar
  cases s with
  | null => exact ⟨_, _, rfl, by decide⟩
  | bool b => cases b <;> exact ⟨_, _, rfl, by decide⟩
  | int n =>
    obtain ⟨c, cs, text, first⟩ := exists_intText n
    refine ⟨c, cs, text, ?_⟩
    rcases first with rfl | digit
    · decide
    · simp only [isBlank, Bool.or_eq_false_iff, beq_eq_false_iff_ne]
      refine ⟨⟨⟨⟨?_, ?_⟩, ?_⟩, ?_⟩, ?_, ?_, ?_, ?_⟩ <;> rintro rfl <;>
        exact absurd digit (by decide)
  | float bits => exact fits.elim
  | text t => exact ⟨_, _, rfl, by decide⟩

theorem scalar?_scalarText {s : JsonScalar} (fits : s.Fits) (ends : EndsNumber rest) :
    scalar? (scalarText s ++ rest) = some (some s, rest) := by
  cases s with
  | null => rfl
  | bool b => cases b <;> rfl
  | int n =>
    obtain ⟨c, cs, text, first⟩ := exists_intText n
    have number := number?_intText fits ends
    rw [scalarText, text, List.cons_append] at *
    rw [scalar?_eq_number? first, number]
  | float bits => exact fits.elim
  | text t => simp [scalarText, literalText, scalar?, literal?_escaped]

end Json

end AccessControl
