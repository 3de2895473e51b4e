/-
  AccessControl/Yaml/Spot.lean
  ============================
  **Classes of characters, and characters in their places.**

  How a text is nested in YAML is told by how far its lines are indented, so the
  reader sees each character with its line and its column, and also with its distance
  from the start of the text, since that limits how long a key is.  All ends of lines
  read as line feeds, except the two of Unicode that have a meaning of their own (the
  line and the paragraph separator), which stay what they are.

  A line ends with a line feed, a carriage return, both of them in that order, or one
  of the three line ends of Unicode.  Spaces and tabs are blanks.  Some characters
  have a meaning of their own at the start of a token, and some of them within
  brackets everywhere.

  ## Main definitions

  * `isLineEnd`, `isBlank`, `isGap`: what stands between tokens;
  * `isIndicator`, `isFlowMark`: what has a meaning of its own;
  * `isNameChar`, `isAddressChar`: what names and addresses are made of;
  * `isReadable`: what may stand in a text at all;
  * `Spot`, `spots`: the characters of a text in their places;
  * `startsGap`, `startsMarker`: what follows ends a word, or is the marker of a document;
  * `lineRest?`: what follows the rest of a line with nothing on it but a comment;
  * `toToken`: what follows white space, ends of lines and comments.
-/

namespace AccessControl.Yaml

/-! ## 1. Classes of characters -/

def isLineEnd (c : Char) : Bool :=
  c == '\n' || c == '\r' || c == '\u0085' || c == '\u2028' || c == '\u2029'

/-- A space or a tab. -/
def isBlank (c : Char) : Bool := c == ' ' || c == '\t'

/-- White space or the end of a line. -/
def isGap (c : Char) : Bool := isBlank c || isLineEnd c

/-- The characters with which no plain scalar starts, unless what follows them says
    otherwise. -/
def isIndicator (c : Char) : Bool := "-?:,[]\x7b\x7d#&*!|>'\"%@\x60".toList.contains c

/-- The characters that structure lists and tables within brackets. -/
def isFlowMark (c : Char) : Bool := c == ',' || c == '[' || c == ']' || c == '\x7b' || c == '\x7d'

/-- A character of the name of an anchor or a directive. -/
def isNameChar (c : Char) : Bool := c.isAlphanum || c == '-' || c == '_'

/-- A character of an address that ends with white space. -/
def isAddressChar (c : Char) : Bool := isNameChar c || ";/?:@&=+$.%!~*'()".toList.contains c

def isClosedAddressChar (c : Char) : Bool := isAddressChar c || c == ',' || c == '[' || c == ']'

/-- A character that may stand in a text. -/
def isReadable (c : Char) : Bool :=
  let n := c.toNat
  n == 0x9 || n == 0xA || n == 0xD || (0x20 ≤ n && n ≤ 0x7E) || n == 0x85
    || (0xA0 ≤ n && n ≤ 0xFFFD) || 0x10000 ≤ n

/-! ## 2. Places -/

/-- A character with its place in a text; all counts start from zero. -/
structure Spot where
  index : Nat
  line : Nat
  column : Nat
  char : Char
deriving DecidableEq, Repr

def readLineEnd (c : Char) : Char := if c == '\u2028' || c == '\u2029' then c else '\n'

def spotsFrom (index line column : Nat) : List Char → List Spot
  | [] => []
  | '\r' :: '\n' :: rest =>
    ⟨index, line, column, '\n'⟩ :: spotsFrom (index + 2) (line + 1) 0 rest
  | c :: rest =>
    if isLineEnd c then
      ⟨index, line, column, readLineEnd c⟩ :: spotsFrom (index + 1) (line + 1) 0 rest
    else ⟨index, line, column, c⟩ :: spotsFrom (index + 1) line (column + 1) rest

/-- The characters of a text in their places. -/
def spots (cs : List Char) : List Spot := spotsFrom 0 0 0 cs

/-! ## 3. What follows -/

/-- What follows is white space, the end of the line, or nothing. -/
def startsGap : List Spot → Bool
  | [] => true
  | s :: _ => isGap s.char

def startsWith (c : Char) : List Spot → Bool
  | [] => false
  | s :: _ => s.char == c

def startsRow : List Char → List Spot → Bool
  | [], _ => true
  | _ :: _, [] => false
  | c :: cs, s :: rest => s.char == c && startsRow cs rest

/-- Three hyphens or three points at the start of a line, which are the marker of a
    document. -/
def startsMarker : List Spot → Bool
  | [] => false
  | s :: rest =>
    s.column == 0
      && (startsRow ['-', '-', '-'] (s :: rest) || startsRow ['.', '.', '.'] (s :: rest))
      && startsGap (rest.drop 2)

def run (p : Char → Bool) (spots : List Spot) : List Char × List Spot :=
  ((spots.takeWhile fun s => p s.char).map Spot.char, spots.dropWhile fun s => p s.char)

def skipBlanks (spots : List Spot) : List Spot := spots.dropWhile fun s => isBlank s.char

/-- What follows the end of a line with nothing left on it but a comment. -/
def lineRest? (spots : List Spot) : Option (List Spot) :=
  let rest := skipBlanks spots
  let rest := if startsWith '#' rest then rest.dropWhile fun s => !isLineEnd s.char else rest
  match rest with
  | [] => some []
  | s :: rest => if isLineEnd s.char then some rest else none

/-! ## 4. Between tokens -/

/-- What follows white space, ends of lines and comments, and whether a key may start
    there: `fresh` says whether it may so far, `flow` that the place is within brackets,
    and `comment` that a comment is being passed.  Outside brackets the end of a line lets
    a key start; a tab is white space where no key may start.  At the start of a line a
    byte order mark is passed. -/
def toToken (flow fresh comment : Bool) : List Spot → Bool × List Spot
  | [] => (fresh, [])
  | s :: rest =>
    if isLineEnd s.char then toToken flow (fresh || !flow) false rest
    else if comment then toToken flow fresh true rest
    else if s.char = ' ' || (s.char = '\t' && (flow || !fresh))
        || (s.char = '\ufeff' && s.column = 0) then
      toToken flow fresh false rest
    else if s.char = '#' then toToken flow fresh true rest
    else (fresh, s :: rest)

end AccessControl.Yaml
