/-
  AccessControl/Json/Printer.lean
  ===============================
  **Writing JSON texts.**

  A value is written on one line without blanks, or over several lines with two
  blanks for every level.  Text literals escape the quote, the backslash and the
  control characters, and nothing else.

  ## Main definitions

  * `compact j`: the text on one line;
  * `pretty j`: the text over several lines.
-/
import AccessControl.Json.Number

namespace AccessControl.Json

open AccessControl.Text

/-! ## 1. Scalars -/

def escapeChar (c : Char) : List Char :=
  if c = '"' then ['\\', '"']
  else if c = '\\' then ['\\', '\\']
  else if c = '\x08' then ['\\', 'b']
  else if c = '\x0c' then ['\\', 'f']
  else if c = '\n' then ['\\', 'n']
  else if c = '\r' then ['\\', 'r']
  else if c = '\t' then ['\\', 't']
  else if c.toNat < 0x20 then
    ['\\', 'u', '0', '0', Nat.digitChar (c.toNat / 16), Nat.digitChar (c.toNat % 16)]
  else [c]

def literalText (s : String) : List Char := '"' :: s.toList.flatMap escapeChar ++ ['"']

def scalarText : JsonScalar → List Char
  | .null => ['n', 'u', 'l', 'l']
  | .bool true => ['t', 'r', 'u', 'e']
  | .bool false => ['f', 'a', 'l', 's', 'e']
  | .int n => intText n
  | .float bits => floatText bits
  | .text s => literalText s

/-! ## 2. One line -/

mutual

def compactChars : Json → List Char
  | .scalar s => scalarText s
  | .list [] => ['[', ']']
  | .list (j :: js) => '[' :: compactChars j ++ compactItems js
  | .table [] => ['\x7b', '\x7d']
  | .table ((k, v) :: rest) =>
    '\x7b' :: literalText k ++ ':' :: compactChars v ++ compactEntries rest
termination_by structural j => j

def compactItems : List Json → List Char
  | [] => [']']
  | j :: js => ',' :: compactChars j ++ compactItems js
termination_by structural js => js

def compactEntries : List (String × Json) → List Char
  | [] => ['\x7d']
  | (k, v) :: rest => ',' :: literalText k ++ ':' :: compactChars v ++ compactEntries rest
termination_by structural es => es

end

/-- The text of a value on one line. -/
def compact (j : Json) : String := String.ofList (compactChars j)

/-! ## 3. Several lines -/

def newLine (level : Nat) : List Char := '\n' :: List.replicate (2 * level) ' '

mutual

def prettyChars (level : Nat) : Json → List Char
  | .scalar s => scalarText s
  | .list [] => ['[', ']']
  | .list (j :: js) =>
    '[' :: newLine (level + 1) ++ prettyChars (level + 1) j ++ prettyItems level js
  | .table [] => ['\x7b', '\x7d']
  | .table ((k, v) :: rest) =>
    '\x7b' :: newLine (level + 1) ++ literalText k ++ ':' :: ' ' :: prettyChars (level + 1) v
      ++ prettyEntries level rest
termination_by structural j => j

def prettyItems (level : Nat) : List Json → List Char
  | [] => newLine level ++ [']']
  | j :: js => ',' :: newLine (level + 1) ++ prettyChars (level + 1) j ++ prettyItems level js
termination_by structural js => js

def prettyEntries (level : Nat) : List (String × Json) → List Char
  | [] => newLine level ++ ['\x7d']
  | (k, v) :: rest =>
    ',' :: newLine (level + 1) ++ literalText k ++ ':' :: ' ' :: prettyChars (level + 1) v
      ++ prettyEntries level rest
termination_by structural es => es

end

/-- The text of a value over several lines. -/
def pretty (j : Json) : String := String.ofList (prettyChars 0 j)

end AccessControl.Json
