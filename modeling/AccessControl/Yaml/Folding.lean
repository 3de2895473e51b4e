/-
  AccessControl/Yaml/Folding.lean
  ===============================
  **Scalars over several lines.**

  A plain or quoted scalar may go on over several lines.  The end of a line within it
  is read as a space, and the ends of blank lines after it as ends of lines; the white
  space around ends of lines does not count.  An end of a line that has a meaning of its
  own is not folded.  A plain scalar ends where a comment, a value or the surrounding
  structure goes on, where a line is not indented far enough, and where a document ends.
  Within a quoted scalar no document ends.

  ## Main definitions

  * `Fold`: the white space between two words;
  * `PlainScalar`, `plainScalar`: a plain scalar, and the rest;
  * `singleText`, `doubleText`: the text of a scalar in quotes, and the rest.
-/
import AccessControl.Text.Decimal
import AccessControl.Yaml.Spot

namespace AccessControl.Yaml

/-! ## 1. White space within scalars -/

/-- The white space that has been passed since the last word. -/
structure Fold where
  blanks : List Char
  broken : Bool
  /-- The end of the first line; it is left out if it was escaped. -/
  first : List Char
  later : List Char
deriving DecidableEq, Repr

namespace Fold

def none : Fold := ⟨[], false, [], []⟩

def escapedBreak : Fold := ⟨[], true, [], []⟩

def isSome (f : Fold) : Bool := f.broken || !f.blanks.isEmpty

/-- One more space or tab: it counts if no line has ended. -/
def blank (f : Fold) (c : Char) : Fold :=
  if f.broken then f else { f with blanks := f.blanks ++ [c] }

def lineBreak (f : Fold) (c : Char) : Fold :=
  if f.broken then { f with later := f.later ++ [c] } else ⟨[], true, [c], []⟩

def text (f : Fold) : List Char :=
  if !f.broken then f.blanks
  else if f.first = ['\n'] then if f.later.isEmpty then [' '] else f.later
  else f.first ++ f.later

end Fold

def prepend (fold : Fold) (c : Char) (rest : Option (List Char × List Spot)) :
    Option (List Char × List Spot) :=
  rest.map fun r => (fold.text ++ c :: r.1, r.2)

/-! ## 2. Plain scalars -/

/-- A plain scalar as it was read. -/
structure PlainScalar where
  text : List Char
  ended : Bool
  rest : List Spot
deriving DecidableEq, Repr

def startsFlowMark : List Spot → Bool
  | [] => false
  | s :: _ => isFlowMark s.char || s.char == '?'

/-- A plain scalar cannot go on here after white space that has some end of a line or not:
    the line is not indented far enough, a comment starts, or a document ends. -/
def isCutShort (flow broken : Bool) (indent : Nat) (spots : List Spot) : Bool :=
  (broken && !flow && (spots.head?.map fun s => decide (s.column < indent)).getD false)
    || startsWith '#' spots || startsMarker spots

/-- A plain scalar.  `flow` says that it stands within brackets, `indent` how far its lines
    have to be indented otherwise, and `fold` is the white space since its last word. -/
def plainScalar (flow : Bool) (indent : Nat) (fold : Fold) : List Spot → Option PlainScalar
  | [] => some ⟨[], fold.broken, []⟩
  | s :: rest =>
    if isLineEnd s.char then plainScalar flow indent (fold.lineBreak s.char) rest
    else if isBlank s.char then
      if fold.broken && s.char == '\t' && s.column < indent then none
      else plainScalar flow indent (fold.blank s.char) rest
    else if fold.isSome && isCutShort flow fold.broken indent (s :: rest) then
      some ⟨[], fold.broken, s :: rest⟩
    else if flow && s.char == ':' && startsFlowMark rest then none
    else if (s.char = ':' && startsGap rest) || (flow && isFlowMark s.char) then
      some ⟨[], fold.broken, s :: rest⟩
    else
      (plainScalar flow indent Fold.none rest).map fun p =>
        { p with text := fold.text ++ s.char :: p.text }

def startsPlain (flow : Bool) (s : Spot) (rest : List Spot) : Bool :=
  !(isGap s.char || isIndicator s.char)
    || s.char == '-' && !startsGap rest
    || !flow && (s.char == '?' || s.char == ':') && !startsGap rest

/-! ## 3. Scalars in quotes -/

/-- The text of a scalar in single quotes, after the opening one, and what follows it.  A
    quote within it is written twice. -/
def singleText (fold : Fold) : List Spot → Option (List Char × List Spot)
  | [] => none
  | s :: rest =>
    if startsMarker (s :: rest) then none
    else if isLineEnd s.char then singleText (fold.lineBreak s.char) rest
    else if isBlank s.char then singleText (fold.blank s.char) rest
    else if s.char ≠ '\'' then prepend fold s.char (singleText Fold.none rest)
    else
      match rest with
      | [] => some (fold.text, [])
      | t :: rest =>
        if t.char = '\'' then prepend fold '\'' (singleText Fold.none rest)
        else some (fold.text, t :: rest)

def shortEscape? : Char → Option Char
  | '0' => some '\x00'
  | 'a' => some '\x07'
  | 'b' => some '\x08'
  | 't' => some '\t'
  | '\t' => some '\t'
  | 'n' => some '\n'
  | 'v' => some '\x0b'
  | 'f' => some '\x0c'
  | 'r' => some '\r'
  | 'e' => some '\x1b'
  | ' ' => some ' '
  | '"' => some '"'
  | '/' => some '/'
  | '\\' => some '\\'
  | 'N' => some '\u0085'
  | '_' => some '\u00a0'
  | 'L' => some '\u2028'
  | 'P' => some '\u2029'
  | _ => none

/-- The character that a row of hexadecimal digits stands for; surrogates stand for
    none. -/
def numbered? (digits : List Spot) : Option Char := do
  let n ← Text.inRadix? 16 (digits.map Spot.char)
  if n < 0xD800 || (0xDFFF < n && n ≤ 0x10FFFF) then some (Char.ofNat n) else none

/-- The text of a scalar in double quotes, after the opening one, and what follows it. -/
def doubleText (fold : Fold) : List Spot → Option (List Char × List Spot)
  | [] => none
  | [s] => if s.char = '"' then some (fold.text, []) else none
  | s :: t :: rest =>
    if startsMarker (s :: t :: rest) then none
    else if isLineEnd s.char then doubleText (fold.lineBreak s.char) (t :: rest)
    else if isBlank s.char then doubleText (fold.blank s.char) (t :: rest)
    else if s.char = '"' then some (fold.text, t :: rest)
    else if s.char ≠ '\\' then prepend fold s.char (doubleText Fold.none (t :: rest))
    else if isLineEnd t.char then
      (doubleText Fold.escapedBreak rest).map fun r => (fold.text ++ r.1, r.2)
    else
      match t.char, rest with
      | 'x', a :: b :: rest =>
        (numbered? [a, b]).bind fun c => prepend fold c (doubleText Fold.none rest)
      | 'u', a :: b :: c :: d :: rest =>
        (numbered? [a, b, c, d]).bind fun x => prepend fold x (doubleText Fold.none rest)
      | 'U', a :: b :: c :: d :: e :: f :: g :: h :: rest =>
        (numbered? [a, b, c, d, e, f, g, h]).bind fun x =>
          prepend fold x (doubleText Fold.none rest)
      | letter, rest =>
        (shortEscape? letter).bind fun c => prepend fold c (doubleText Fold.none rest)

end AccessControl.Yaml
