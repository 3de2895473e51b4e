/-
  AccessControl/Text/White.lean
  =============================
  **White space, trimming and letter case.**

  Names, headers and durations are read after the white space at their ends is
  dropped, and white space is the Unicode property `White_Space`, which is wider
  than the five characters that the core library calls blank.  The property is a
  closed list of code points, so it is a table here.

  Permission names and the word for an unlimited idle time are read in any letter
  case, and case means the 26 Latin letters only: every other character equals
  itself alone.

  ## Main definitions

  * `isWhite c`: the character has the property `White_Space`;
  * `trimStart`, `trimEnd`, `trim`: a text without the white space at its ends;
  * `trimMatches p`: the same for any class of characters;
  * `foldCase c`: the lower-case form of an ASCII letter, any other character itself;
  * `sameIgnoringCase`: equality of texts up to `foldCase`.

  ## Main statements

  * `trimMatches_eq_self`: a text that neither starts nor ends in the class is
    left alone.
-/

namespace AccessControl.Text

/-! ## 1. The property -/

/-- The characters with the Unicode property `White_Space`. -/
def isWhite (c : Char) : Bool :=
  let n := c.toNat
  (0x9 ≤ n && n ≤ 0xD) || n == 0x20 || n == 0x85 || n == 0xA0 || n == 0x1680
    || (0x2000 ≤ n && n ≤ 0x200A) || n == 0x2028 || n == 0x2029 || n == 0x202F
    || n == 0x205F || n == 0x3000

/-! ## 2. Trimming -/

/-- The text without the characters of the class `p` at its ends. -/
def trimMatches (p : Char → Bool) (cs : List Char) : List Char :=
  ((cs.dropWhile p).reverse.dropWhile p).reverse

def trimStart (cs : List Char) : List Char := cs.dropWhile isWhite

def trimEnd (cs : List Char) : List Char := (cs.reverse.dropWhile isWhite).reverse

def trim (cs : List Char) : List Char := trimMatches isWhite cs

/-- A text whose first and last characters are outside the class keeps all of
    its characters. -/
theorem trimMatches_eq_self {p : Char → Bool} {cs : List Char}
    (first : ∀ c ∈ cs.head?, p c = false) (last : ∀ c ∈ cs.getLast?, p c = false) :
    trimMatches p cs = cs := by
  have start : ∀ ds : List Char, (∀ c ∈ ds.head?, p c = false) → ds.dropWhile p = ds := by
    intro ds h
    cases ds with
    | nil => rfl
    | cons d r => simp [h d (by simp)]
  unfold trimMatches
  rw [start cs first, start cs.reverse (by simpa using last), List.reverse_reverse]

/-! ## 3. Letter case -/

/-- The lower-case form of an upper-case ASCII letter, and every other character
    itself. -/
def foldCase (c : Char) : Char :=
  if 'A' ≤ c ∧ c ≤ 'Z' then Char.ofNat (c.toNat + 32) else c

/-- Two texts are the same up to the case of their ASCII letters. -/
def sameIgnoringCase (a b : List Char) : Bool := a.map foldCase == b.map foldCase

end AccessControl.Text
