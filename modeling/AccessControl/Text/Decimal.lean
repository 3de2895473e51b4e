/-
  AccessControl/Text/Decimal.lean
  ===============================
  **Natural numbers in digits.**

  A number is written with its least digits (no leading zero, `0` alone for zero),
  and read digit by digit.  Session ids carry a number in this form, and so do the
  documents and the durations.

  Escapes in quoted texts and some numbers are written in hexadecimal, octal or
  binary.  A digit beyond nine is a letter from `a` to `f`, in either case.

  ## Main definitions

  * `digits n`: the decimal digits of `n`, the most significant first;
  * `isDigit c`, `digitValue c`: the ten digits and their values;
  * `readDigits cs`: the number that a row of digits denotes;
  * `hexValue? c`: the value of a hexadecimal digit;
  * `inRadix? radix cs`: the number that a non-empty row of digits denotes.

  ## Main statements

  * `readDigits_digits`: what is written is read back;
  * `digits_ne_nil`, `isDigit_of_mem_digits`: a written number is a non-empty row
    of digits.
-/

namespace AccessControl.Text

/-! ## 1. Writing -/

def digitChar (d : Nat) : Char := Char.ofNat (48 + d)

/-- The decimal digits of a number, the most significant first. -/
def digits (n : Nat) : List Char :=
  if _ : n < 10 then [digitChar n] else digits (n / 10) ++ [digitChar (n % 10)]
termination_by n
decreasing_by omega

/-- A number is written with at least one digit. -/
theorem digits_ne_nil (n : Nat) : digits n ≠ [] := by
  unfold digits
  split <;> simp

/-! ## 2. Reading -/

def isDigit (c : Char) : Bool := 48 ≤ c.toNat && c.toNat ≤ 57

def digitValue (c : Char) : Nat := c.toNat - 48

/-- The number that a row of digits denotes. -/
def readDigits (cs : List Char) : Nat := cs.foldl (fun n c => 10 * n + digitValue c) 0

theorem isDigit_digitChar {d : Nat} (h : d < 10) : isDigit (digitChar d) = true := by
  revert d; decide

theorem digitValue_digitChar {d : Nat} (h : d < 10) : digitValue (digitChar d) = d := by
  revert d; decide

/-- Every character of a written number is a digit. -/
theorem isDigit_of_mem_digits {n : Nat} {c : Char} (h : c ∈ digits n) : isDigit c = true := by
  fun_induction digits n with
  | case1 n hn => simp only [List.mem_singleton] at h; exact h ▸ isDigit_digitChar hn
  | case2 n _ ih =>
    rcases List.mem_append.1 h with h | h
    · exact ih h
    · simp only [List.mem_singleton] at h
      exact h ▸ isDigit_digitChar (Nat.mod_lt _ (by decide))

/-- What is written is read back. -/
theorem readDigits_digits (n : Nat) : readDigits (digits n) = n := by
  fun_induction digits n with
  | case1 n hn => simp [readDigits, digitValue_digitChar hn]
  | case2 n _ ih =>
    simp only [readDigits] at ih ⊢
    rw [List.foldl_append, ih, List.foldl_cons, List.foldl_nil,
      digitValue_digitChar (Nat.mod_lt _ (by decide))]
    omega

theorem digits_injective {m n : Nat} (h : digits m = digits n) : m = n := by
  rw [← readDigits_digits m, h, readDigits_digits]

/-! ## 3. Other radices -/

/-- The value of a hexadecimal digit. -/
def hexValue? (c : Char) : Option Nat :=
  if '0' ≤ c ∧ c ≤ '9' then some (c.toNat - 48)
  else if 'a' ≤ c ∧ c ≤ 'f' then some (c.toNat - 87)
  else if 'A' ≤ c ∧ c ≤ 'F' then some (c.toNat - 55)
  else none

/-- The digits of a number, the most significant first, added to what stands before
    them. -/
def digitsInRadix? (radix : Nat) : Nat → List Char → Option Nat
  | n, [] => some n
  | n, c :: rest =>
    match hexValue? c with
    | some d => if d < radix then digitsInRadix? radix (radix * n + d) rest else none
    | none => none

/-- The number that a non-empty row of digits denotes. -/
def inRadix? (radix : Nat) (cs : List Char) : Option Nat :=
  if cs.isEmpty then none else digitsInRadix? radix 0 cs

end AccessControl.Text
