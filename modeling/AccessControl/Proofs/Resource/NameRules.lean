/-
  AccessControl/Proofs/Resource/NameRules.lean
  ============================================
  **The rules for the names of images.**

  The reader of a repository name walks over it with one question at each character: may a word
  go on here, or must one start?  Two other descriptions of the same names do not walk.  One
  looks at the characters: which there are, which stand at the ends, which stand side by side
  (`Regular`).  The other is the regular expression that is shown to whoever chose a bad name,
  `[a-z0-9]+(?:[._-][a-z0-9]+)*`, and it has to match all of the name (`pattern`).

  Both follow the two states of the reader.  What may stand behind a character of a word is
  `Trailing` in the one description.  In the other it is what is left of the expression, and
  Kleene's laws say what the next character does to it (`continuation_eq`).

  The local engine has a rule of its own, with other characters and at most one colon.  Names of
  stored images have no period, so they keep this rule too, and so do two of them with a colon in
  between.

  ## Main definitions

  * `Regular`, `Trailing`: names, and ends of names, by their characters;
  * `pattern`: names as a regular expression;
  * `IsLocalLetter`: the characters of local names.

  ## Main statements

  * `conforms_iff_regular`, `conforms_iff_matches`: the two descriptions of repository names;
  * `isLocal_iff`: local names;
  * `image_names_ruled`: all rules together.
-/
import AccessControl.Resource.ImageName
import Mathlib.Computability.RegularExpressions
import Mathlib.Data.List.Chain

namespace AccessControl.ImageName

/-! ## 1. Names by their characters -/

def InWord (c : Char) : Prop := ('a' ≤ c ∧ c ≤ 'z') ∨ ('0' ≤ c ∧ c ≤ '9')

def Separates (c : Char) : Prop := c = '.' ∨ c = '_' ∨ c = '-'

/-- What may stand behind a character of a word: there are no other characters than those of
    names, the last is one of a word, and no two separators stand side by side. -/
structure Trailing (cs : List Char) : Prop where
  known : ∀ c ∈ cs, InWord c ∨ Separates c
  ends : ∀ c ∈ cs.getLast?, InWord c
  apart : cs.IsChain fun c d => ¬(Separates c ∧ Separates d)

/-- A name: it is not empty, and starts like it ends. -/
structure Regular (cs : List Char) : Prop extends Trailing cs where
  nonempty : cs ≠ []
  starts : ∀ c ∈ cs.head?, InWord c

variable {c : Char} {cs : List Char}

theorem isWordChar_iff : isWordChar c = true ↔ InWord c := by
  simp only [isWordChar, InWord, Bool.or_eq_true, Bool.and_eq_true, decide_eq_true_eq]

theorem isSeparator_iff : isSeparator c = true ↔ Separates c := by
  simp only [isSeparator, Separates, Bool.or_eq_true, beq_iff_eq, or_assoc]

theorem InWord.not_separates (word : InWord c) : ¬Separates c := by
  rintro (rfl | rfl | rfl) <;> exact absurd (isWordChar_iff.2 word) (by decide)

theorem trailing_nil : Trailing [] :=
  ⟨by simp, by simp, .nil⟩

theorem forall_last_cons {P : Char → Prop} : (∀ d ∈ (c :: cs).getLast?, P d) ↔
    (cs = [] → P c) ∧ ∀ d ∈ cs.getLast?, P d := by
  cases cs <;> simp

theorem trailing_cons_of_word (word : InWord c) : Trailing (c :: cs) ↔ Trailing cs := by
  have single : ¬Separates c := word.not_separates
  constructor
  · intro h
    exact ⟨fun d hd => h.known d (List.mem_cons_of_mem _ hd), (forall_last_cons.1 h.ends).2,
      h.apart.tail⟩
  · intro h
    refine ⟨?_, forall_last_cons.2 ⟨fun _ => word, h.ends⟩,
      h.apart.cons fun d _ both => single both.1⟩
    intro d hd
    rcases List.mem_cons.1 hd with rfl | hd
    · exact .inl word
    · exact h.known d hd

theorem trailing_cons_of_separator (sep : Separates c) : Trailing (c :: cs) ↔ Regular cs := by
  constructor
  · intro h
    obtain ⟨alone, ends⟩ := forall_last_cons.1 h.ends
    have known : ∀ d ∈ cs, InWord d ∨ Separates d := fun d hd =>
      h.known d (List.mem_cons_of_mem _ hd)
    refine ⟨⟨known, ends, h.apart.tail⟩, fun empty => (alone empty).not_separates sep, ?_⟩
    intro d hd
    -- the next character is no separator, for there is one in front of it
    apply (known d (List.mem_of_mem_head? hd)).resolve_right
    intro next
    exact (List.isChain_cons.1 h.apart).1 d hd ⟨sep, next⟩
  · intro h
    refine ⟨?_, forall_last_cons.2 ⟨fun empty => absurd empty h.nonempty, h.ends⟩,
      h.apart.cons fun d hd both => (h.starts d hd).not_separates both.2⟩
    intro d hd
    rcases List.mem_cons.1 hd with rfl | hd
    · exact .inr sep
    · exact h.known d hd

theorem regular_cons : Regular (c :: cs) ↔ InWord c ∧ Trailing cs := by
  constructor
  · intro h
    have word : InWord c := h.starts c rfl
    exact ⟨word, (trailing_cons_of_word word).1 h.toTrailing⟩
  · rintro ⟨word, h⟩
    exact ⟨(trailing_cons_of_word word).2 h, by simp, by simpa using word⟩

/-- The two states of the reader, by characters. -/
theorem reads_iff_regular (cs : List Char) :
    (startsWord cs = true ↔ Regular cs) ∧ (continuesWord cs = true ↔ Trailing cs) := by
  induction cs with
  | nil =>
    constructor
    · simp only [startsWord, Bool.false_eq_true, false_iff]
      intro h
      exact h.nonempty rfl
    · simp only [continuesWord, true_iff]
      exact trailing_nil
  | cons c cs ih =>
    obtain ⟨starts, continues⟩ := ih
    constructor
    · rw [startsWord, Bool.and_eq_true, isWordChar_iff, continues, regular_cons]
    · rw [continuesWord]
      by_cases word : InWord c
      · rw [if_pos (isWordChar_iff.2 word), continues, trailing_cons_of_word word]
      · rw [if_neg fun h => word (isWordChar_iff.1 h), Bool.and_eq_true, isSeparator_iff, starts]
        constructor
        · rintro ⟨sep, h⟩
          exact (trailing_cons_of_separator sep).2 h
        · intro h
          have sep : Separates c := (h.known c (by simp)).resolve_left word
          exact ⟨sep, (trailing_cons_of_separator sep).1 h⟩

theorem conforms_iff_regular {name : String} : conforms name = true ↔ Regular name.toList :=
  (reads_iff_regular name.toList).1

/-! ## 2. Names as a regular expression -/

open RegularExpression (char)
open scoped Computability

def between (first last : Char) : List Char :=
  (List.range (last.toNat + 1 - first.toNat)).map fun n => Char.ofNat (first.toNat + n)

def oneOf : List Char → RegularExpression Char
  | [] => 0
  | c :: cs => char c + oneOf cs

def wordClass : RegularExpression Char := oneOf (between 'a' 'z' ++ between '0' '9')

def separatorClass : RegularExpression Char := oneOf ['.', '_', '-']

def word : RegularExpression Char := wordClass * wordClass.star

/-- The expression `[a-z0-9]+(?:[._-][a-z0-9]+)*`. -/
def pattern : RegularExpression Char := word * (separatorClass * word).star

theorem mem_between {a b : Char} (plain : b.toNat < 0xD800) :
    c ∈ between a b ↔ a ≤ c ∧ c ≤ b := by
  show _ ↔ a.toNat ≤ c.toNat ∧ c.toNat ≤ b.toNat
  simp only [between, List.mem_map, List.mem_range]
  constructor
  · rintro ⟨n, bound, rfl⟩
    have valid : (a.toNat + n).isValidChar := .inl (by omega)
    have code : (Char.ofNat (a.toNat + n)).toNat = a.toNat + n := by
      rw [Char.ofNat, dif_pos valid]
      rfl
    rw [code]
    omega
  · rintro ⟨low, high⟩
    refine ⟨c.toNat - a.toNat, by omega, ?_⟩
    rw [Nat.add_sub_cancel' low, Char.ofNat_toNat]

theorem mem_oneOf {letters text : List Char} :
    text ∈ (oneOf letters).matches' ↔ ∃ c ∈ letters, text = [c] := by
  induction letters with
  | nil => simp [oneOf]
  | cons c cs ih =>
    simp only [oneOf, RegularExpression.matches'_add, RegularExpression.matches'_char,
      Language.mem_add, ih, List.exists_mem_cons_iff]
    rfl

theorem mem_wordClass {text : List Char} :
    text ∈ wordClass.matches' ↔ ∃ c, InWord c ∧ text = [c] := by
  simp only [wordClass, mem_oneOf, List.mem_append, mem_between (b := 'z') (by decide),
    mem_between (b := '9') (by decide), InWord]

theorem mem_separatorClass {text : List Char} :
    text ∈ separatorClass.matches' ↔ ∃ c, Separates c ∧ text = [c] := by
  rw [separatorClass, mem_oneOf]
  simp [Separates]

/-- What may follow a character of a word: the rest of the word, and further words. -/
def continuation : RegularExpression Char := wordClass.star * (separatorClass * word).star

theorem pattern_eq : pattern.matches' = wordClass.matches' * continuation.matches' := by
  simp only [pattern, continuation, word, RegularExpression.matches'_mul,
    RegularExpression.matches'_star, mul_assoc]

/-- What follows is nothing, or a separator and a name, or another character of the word. -/
theorem continuation_eq : continuation.matches' =
    1 + separatorClass.matches' * pattern.matches' +
      wordClass.matches' * continuation.matches' := by
  have more : (separatorClass * word).star.matches' =
      1 + separatorClass.matches' * pattern.matches' := by
    rw [RegularExpression.matches'_star, ← Language.one_add_self_mul_kstar_eq_kstar]
    simp only [pattern, RegularExpression.matches'_mul, RegularExpression.matches'_star, mul_assoc]
  calc continuation.matches'
      = (1 + wordClass.matches' * wordClass.matches'∗) * (separatorClass * word).star.matches' := by
        rw [Language.one_add_self_mul_kstar_eq_kstar, continuation,
          RegularExpression.matches'_mul, RegularExpression.matches'_star]
    _ = (separatorClass * word).star.matches' + wordClass.matches' * continuation.matches' := by
        rw [add_mul, one_mul, mul_assoc, continuation, RegularExpression.matches'_mul,
          RegularExpression.matches'_star wordClass]
    _ = _ := by rw [more]

theorem cons_mem_mul {one rest : Language Char} {P : Char → Prop}
    (letters : ∀ text, text ∈ one ↔ ∃ c, P c ∧ text = [c]) :
    c :: cs ∈ one * rest ↔ P c ∧ cs ∈ rest := by
  rw [Language.mem_mul]
  constructor
  · rintro ⟨front, first, back, matched, split⟩
    obtain ⟨d, hd, rfl⟩ := (letters front).1 first
    obtain ⟨rfl, rfl⟩ := List.cons.inj split
    exact ⟨hd, matched⟩
  · rintro ⟨hc, matched⟩
    exact ⟨[c], (letters [c]).2 ⟨c, hc, rfl⟩, cs, matched, rfl⟩

theorem nil_not_mem_pattern : [] ∉ pattern.matches' := by
  rw [pattern_eq, Language.mem_mul]
  rintro ⟨front, first, back, -, split⟩
  obtain ⟨c, -, rfl⟩ := mem_wordClass.1 first
  cases split

theorem cons_mem_pattern :
    c :: cs ∈ pattern.matches' ↔ InWord c ∧ cs ∈ continuation.matches' := by
  rw [pattern_eq, cons_mem_mul fun _ => mem_wordClass]

theorem nil_mem_continuation : [] ∈ continuation.matches' := by
  rw [continuation_eq, Language.mem_add, Language.mem_add]
  exact .inl (.inl rfl)

theorem cons_mem_continuation : c :: cs ∈ continuation.matches' ↔
    (Separates c ∧ cs ∈ pattern.matches') ∨ (InWord c ∧ cs ∈ continuation.matches') := by
  rw [continuation_eq, Language.mem_add, Language.mem_add, Language.mem_one,
    cons_mem_mul fun _ => mem_separatorClass, cons_mem_mul fun _ => mem_wordClass,
    ← continuation_eq]
  simp

theorem reads_iff_matches (cs : List Char) :
    (startsWord cs = true ↔ cs ∈ pattern.matches') ∧
      (continuesWord cs = true ↔ cs ∈ continuation.matches') := by
  induction cs with
  | nil =>
    constructor
    · simp only [startsWord, Bool.false_eq_true, false_iff]
      exact nil_not_mem_pattern
    · simp only [continuesWord, true_iff]
      exact nil_mem_continuation
  | cons c cs ih =>
    obtain ⟨starts, continues⟩ := ih
    constructor
    · rw [startsWord, Bool.and_eq_true, isWordChar_iff, continues, cons_mem_pattern]
    · rw [continuesWord, cons_mem_continuation]
      by_cases word : InWord c
      · rw [if_pos (isWordChar_iff.2 word), continues]
        simp [word, word.not_separates]
      · rw [if_neg fun h => word (isWordChar_iff.1 h), Bool.and_eq_true, isSeparator_iff, starts]
        simp [word]

theorem conforms_iff_matches {name : String} :
    conforms name = true ↔ name.toList ∈ pattern.matches' :=
  (reads_iff_matches name.toList).1

/-! ## 3. Stored images and local names -/

theorem checkRepository_ok_iff {name : String} :
    checkRepository name = .ok () ↔ conforms name = true := by
  by_cases h : conforms name = true <;> simp [checkRepository, h]

theorem check_ok_iff {name : String} :
    check name = .ok () ↔ checkRepository name = .ok () ∧ '.' ∉ name.toList := by
  rw [checkRepository_ok_iff, check]
  by_cases h : conforms name = true
  · by_cases period : '.' ∈ name.toList <;> simp [h, period]
  · simp [h]

/-- A letter, a digit, a hyphen or an underscore. -/
def IsLocalLetter (c : Char) : Prop :=
  ('a' ≤ c ∧ c ≤ 'z') ∨ ('A' ≤ c ∧ c ≤ 'Z') ∨ ('0' ≤ c ∧ c ≤ '9') ∨ c = '-' ∨ c = '_'

theorem isLocalChar_iff : isLocalChar c = true ↔ IsLocalLetter c := by
  simp only [isLocalChar, IsLocalLetter, Bool.or_eq_true, Bool.and_eq_true, decide_eq_true_eq,
    beq_iff_eq, or_assoc]

theorem isLocal_iff {name : String} : isLocal name = true ↔
    name.toList.count ':' ≤ 1 ∧ ∀ c ∈ name.toList, c = ':' ∨ IsLocalLetter c := by
  simp only [isLocal, Bool.and_eq_true, decide_eq_true_eq, List.all_eq_true, isLocalChar_iff,
    Text.length_pieces, Text.forall_pieces, Nat.reduceLeDiff]

theorem isLocalLetter_of_check {name : String} (stored : check name = .ok ()) :
    ∀ c ∈ name.toList, IsLocalLetter c := by
  obtain ⟨named, unspaced⟩ := check_ok_iff.1 stored
  have regular := conforms_iff_regular.1 (checkRepository_ok_iff.1 named)
  intro c hc
  rcases regular.known c hc with (small | digit) | rfl | rfl | rfl
  · exact .inl small
  · exact .inr (.inr (.inl digit))
  · exact absurd hc unspaced
  · exact .inr (.inr (.inr (.inr rfl)))
  · exact .inr (.inr (.inr (.inl rfl)))

theorem colon_not_local : ¬IsLocalLetter ':' := by
  rw [← isLocalChar_iff]
  decide

theorem colon_not_mem_of_check {name : String} (stored : check name = .ok ()) :
    ':' ∉ name.toList := by
  intro colon
  exact colon_not_local (isLocalLetter_of_check stored ':' colon)

theorem isLocal_of_check {name : String} (stored : check name = .ok ()) : isLocal name = true := by
  rw [isLocal_iff, List.count_eq_zero.2 (colon_not_mem_of_check stored)]
  exact ⟨Nat.zero_le 1, fun c hc => .inr (isLocalLetter_of_check stored c hc)⟩

theorem isLocal_tagged {name tag : String} (stored : check name = .ok ())
    (tagged : check tag = .ok ()) : isLocal (name ++ ":" ++ tag) = true := by
  have text : (name ++ ":" ++ tag).toList = name.toList ++ ':' :: tag.toList := by simp
  rw [isLocal_iff, text]
  constructor
  · rw [List.count_append, List.count_cons_self,
      List.count_eq_zero.2 (colon_not_mem_of_check stored),
      List.count_eq_zero.2 (colon_not_mem_of_check tagged)]
  · intro c hc
    rcases List.mem_append.1 hc with front | back
    · exact .inr (isLocalLetter_of_check stored c front)
    · rcases List.mem_cons.1 back with rfl | back
      · exact .inl rfl
      · exact .inr (isLocalLetter_of_check tagged c back)

theorem newline_not_mem {cs : List Char} (regular : Regular cs) : '\n' ∉ cs := by
  intro h
  rcases regular.known '\n' h with word | sep
  · exact absurd (isWordChar_iff.2 word) (by decide)
  · exact absurd (isSeparator_iff.2 sep) (by decide)

/-- A repository name is accepted if and only if its characters are small letters, digits and
    the three separators, it has a letter or digit at both ends, and no two separators stand side
    by side; that is, if and only if the documented expression matches all of it, and no line
    break is allowed behind it.  The name of a stored image must have no period besides.  A local
    name is one with at most one colon, whose other characters are letters, digits, hyphens and
    underscores.  So the name of a stored image is a local name, and so is such a name with a
    colon and another one behind it. -/
theorem image_names_ruled (name : String) :
    (checkRepository name = .ok () ↔ Regular name.toList) ∧
    (checkRepository name = .ok () ↔ name.toList ∈ pattern.matches') ∧
    checkRepository (name ++ "\n") ≠ .ok () ∧
    (check name = .ok () ↔ checkRepository name = .ok () ∧ '.' ∉ name.toList) ∧
    (isLocal name = true ↔
      name.toList.count ':' ≤ 1 ∧ ∀ c ∈ name.toList, c = ':' ∨ IsLocalLetter c) ∧
    (check name = .ok () → isLocal name = true ∧
      ∀ tag, check tag = .ok () → isLocal (name ++ ":" ++ tag) = true) := by
  refine ⟨?_, ?_, ?_, check_ok_iff, isLocal_iff, ?_⟩
  · rw [checkRepository_ok_iff, conforms_iff_regular]
  · rw [checkRepository_ok_iff, conforms_iff_matches]
  · rw [Ne, checkRepository_ok_iff, conforms_iff_regular]
    intro regular
    exact newline_not_mem regular (by simp)
  · intro stored
    exact ⟨isLocal_of_check stored, fun tag tagged => isLocal_tagged stored tagged⟩

/-- A name and a tag with separators in them. -/
theorem image_names_ruled_sample :
    check "web-app_2" = .ok () ∧ check "v1-2" = .ok () ∧ isLocal "web-app_2:v1-2" = true := by
  have name : check "web-app_2" = .ok () := by cbv
  have tag : check "v1-2" = .ok () := by cbv
  obtain ⟨-, -, -, -, -, stored⟩ := image_names_ruled "web-app_2"
  exact ⟨name, tag, (stored name).2 "v1-2" tag⟩

end AccessControl.ImageName
