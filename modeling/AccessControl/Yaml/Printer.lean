/-
  AccessControl/Yaml/Printer.lean
  ===============================
  **Writing YAML entries.**

  An entry stands on its own line, its name plainly, and its text in the first of four
  styles that keeps it: plainly, as a block, in single quotes, or in double quotes.  A
  text with several lines is a block.  A text that would be read back as something
  else is put in single quotes.  In double quotes stands what no other style can show.

  ## Main definitions

  * `readsAsOther`: the texts that are not left plain;
  * `plainAllowed`, `singleAllowed`, `blockAllowed`: what the styles can show;
  * `TextStyle`, `textStyle`: the style of a text;
  * `textEntry`, `flagEntry`: entries.

  ## Main statements

  * `textStyle_of_readsAsOther`: what would be read as something else is not plain.
-/
import AccessControl.Yaml.Spot
import AccessControl.Yaml.Value

namespace AccessControl.Yaml

open Text

/-! ## 1. Texts that are not left plain -/

/-- The digits of a row as a number, with the power of ten that they count: a fraction
    is a row of further digits with a smaller power. -/
def decimal? (cs : List Char) : Option (Nat × Int) :=
  let whole := cs.takeWhile isDigit
  let rest := cs.dropWhile isDigit
  let (fraction, rest) := match rest with
    | '.' :: r => (r.takeWhile isDigit, r.dropWhile isDigit)
    | r => ([], r)
  let digits := whole ++ fraction
  let power? : Option Int := match rest with
    | [] => some 0
    | 'e' :: '-' :: r | 'E' :: '-' :: r => (inRadix? 10 r).map fun n => -Int.ofNat n
    | 'e' :: '+' :: r | 'E' :: '+' :: r => (inRadix? 10 r).map Int.ofNat
    | 'e' :: r | 'E' :: r => (inRadix? 10 r).map Int.ofNat
    | _ => none
  if digits.isEmpty then none
  else power?.map fun p => (readDigits digits, p - fraction.length)

def firstInfinite : Nat := Nat.pow 2 1024 - Nat.pow 2 970

/-- A number of digits times a power of ten is rounded to a double.  Where the count of
    digits alone does not decide it, the number is computed. -/
def fitsDouble (significand : Nat) (power : Int) : Bool :=
  let top := power + (digits significand).length
  if significand = 0 || top ≤ 308 then true
  else if top > 310 then false
  else decide (significand * Nat.pow 10 power.toNat < firstInfinite * Nat.pow 10 (-power).toNat)

/-- A decimal number with at most one sign that is rounded to a double, or one of the
    words for what is no number. -/
def isFloatText (text : String) : Bool :=
  let finite (cs : List Char) : Bool :=
    match decimal? cs with
    | some (significand, power) => fitsDouble significand power
    | none => false
  let infinite := [".inf", ".Inf", ".INF"]
  [".nan", ".NaN", ".NAN"].contains text
    || match text.toList with
      | '+' :: cs => infinite.contains (String.ofList cs) || finite cs
      | '-' :: cs => infinite.contains (String.ofList cs) || finite cs
      | cs => infinite.contains text || finite cs

def isWholeText (text : String) : Bool :=
  match YamlScalar.wholeNumber? text with
  | some n => decide (-Int.ofNat (Nat.pow 2 127) ≤ n ∧ n < Int.ofNat (Nat.pow 2 128))
  | none => false

/-- A row of digits that is no number because of a zero in front. -/
def isPaddedText (text : String) : Bool :=
  match text.toList with
  | '+' :: cs | '-' :: cs => YamlScalar.isPaddedDigits cs
  | cs => YamlScalar.isPaddedDigits cs

/-- A plain scalar with this text would be read as nothing, a truth value or a number,
    or looks like a number. -/
def readsAsOther (text : String) : Bool :=
  text.isEmpty || YamlScalar.nullWords.contains text || (YamlScalar.flagWord? text).isSome
    || isWholeText text || isFloatText text || isPaddedText text

/-! ## 2. What the styles can show -/

def beforeWhite : List Char → Bool
  | [] => true
  | c :: _ => isGap c

def isPrintable (c : Char) : Bool :=
  let n := c.toNat
  n == 0x0A || (0x20 ≤ n && n ≤ 0x7E) || (0xA0 ≤ n && n != 0xFEFF && n != 0xFFFE && n != 0xFFFF)

/-- A space stands next to the end of a line: `ends` says whether the line or the space
    comes first. -/
def spaceByEnd (ends : Bool) : List Char → Bool
  | c :: d :: rest =>
    (if ends then isLineEnd c && d == ' ' else c == ' ' && isLineEnd d)
      || spaceByEnd ends (d :: rest)
  | _ => false

def openingMarks : List Char :=
  ['#', ',', '[', ']', '\x7b', '\x7d', '&', '*', '!', '|', '>', '\'', '"', '%', '@', '\x60']

def opensStructure : List Char → Bool
  | '-' :: '-' :: '-' :: _ | '.' :: '.' :: '.' :: _ => true
  | c :: rest =>
    openingMarks.contains c || ((c == '-' || c == '?') && beforeWhite rest)
  | [] => false

/-- A colon before white space, or a number sign after it, would be read as structure. -/
def holdsStructure (afterBlank : Bool) : List Char → Bool
  | [] => false
  | c :: rest =>
    (c == ':' && beforeWhite rest) || (c == '#' && afterBlank)
      || holdsStructure (beforeWhite [c]) rest

def plainAllowed (cs : List Char) : Bool :=
  cs.all (fun c => isPrintable c && !isLineEnd c)
    && cs.head? != some ' ' && cs.getLast? != some ' '
    && !opensStructure cs && !holdsStructure true cs

def singleAllowed (cs : List Char) : Bool :=
  cs.all isPrintable && !spaceByEnd true cs && !spaceByEnd false cs

def blockAllowed (cs : List Char) : Bool :=
  cs.all isPrintable && !spaceByEnd false cs && cs.getLast? != some ' '

/-! ## 3. Styles -/

/-- How a text is written. -/
inductive TextStyle where
  | plain | single | double | block
deriving DecidableEq, Repr

/-- The style of a text: the first that keeps it. -/
def textStyle (text : String) : TextStyle :=
  let cs := text.toList
  let quotes := if singleAllowed cs then TextStyle.single else .double
  if cs.contains '\n' then if blockAllowed cs then .block else .double
  else if readsAsOther text then quotes
  else if plainAllowed cs then .plain
  else quotes

/-- What would be read as something else is not written plainly. -/
theorem textStyle_of_readsAsOther {text : String} (h : readsAsOther text = true) :
    textStyle text ≠ .plain := by
  unfold textStyle
  simp only [h, if_true]
  repeat' split
  all_goals simp

/-- Text that is indented by two blanks wherever a line starts; `fresh` says that one
    does. -/
def indented (fresh : Bool) : List Char → List Char
  | [] => []
  | c :: rest =>
    if isLineEnd c then c :: indented true rest
    else (if fresh then [' ', ' ', c] else [c]) ++ indented false rest

def singleQuoted (cs : List Char) : List Char :=
  let body := indented false (cs.flatMap fun c => if c = '\'' then ['\'', '\''] else [c])
  '\'' :: body ++ (if (cs.getLast?.map isLineEnd).getD false then [' ', ' '] else []) ++ ['\'']

def upperHexDigit (n : Nat) : Char := (Nat.digitChar n).toUpper

def upperHex (width n : Nat) : List Char :=
  (List.range width).map fun i => upperHexDigit (n / Nat.pow 16 (width - 1 - i) % 16)

def shortEscapes : List (Char × Char) :=
  [('\x00', '0'), ('\x07', 'a'), ('\x08', 'b'), ('\t', 't'), ('\n', 'n'), ('\x0b', 'v'),
   ('\x0c', 'f'), ('\r', 'r'), ('\x1b', 'e'), ('"', '"'), ('\\', '\\'), ('\u0085', 'N'),
   ('\u2028', 'L'), ('\u2029', 'P')]

def doubleEscaped (c : Char) : List Char :=
  match shortEscapes.lookup c with
  | some name => ['\\', name]
  | none =>
    if isPrintable c then [c]
    else if c.toNat ≤ 0xFF then '\\' :: 'x' :: upperHex 2 c.toNat
    else if c.toNat ≤ 0xFFFF then '\\' :: 'u' :: upperHex 4 c.toNat
    else '\\' :: 'U' :: upperHex 8 c.toNat

/-- What stands behind the bar of a block: the indentation, where the text itself does
    not show it, and what to do with the ends of lines at the end. -/
def blockHints (cs : List Char) : List Char :=
  let indentation := match cs with
    | c :: _ => if c == ' ' || isLineEnd c then ['2'] else []
    | [] => []
  let ending := match cs.reverse with
    | c :: d :: _ => if !isLineEnd c then ['-'] else if isLineEnd d then ['+'] else []
    | [c] => if isLineEnd c then ['+'] else ['-']
    | [] => ['-']
  indentation ++ ending

def textChars (text : String) : List Char :=
  let cs := text.toList
  match textStyle text with
  | .plain => cs
  | .single => singleQuoted cs
  | .double => '"' :: cs.flatMap doubleEscaped ++ ['"']
  | .block => '|' :: blockHints cs ++ '\n' :: indented true cs

/-! ## 4. Entries -/

/-- An entry is ended by the end of a line, unless its text has one already. -/
def entryChars (name : String) (value : List Char) : List Char :=
  name.toList ++ ':' :: ' ' :: value
    ++ (if (value.getLast?.map isLineEnd).getD false then [] else ['\n'])

def textEntry (name text : String) : String := String.ofList (entryChars name (textChars text))

def flagEntry (name : String) (value : Bool) : String :=
  String.ofList (entryChars name (if value then "true" else "false").toList)

end AccessControl.Yaml
