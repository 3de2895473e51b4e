/-
  AccessControl/Yaml/BlockText.lean
  =================================
  **Block scalars.**

  After `|` or `>` a text follows on indented lines of its own.  After `|` its ends of
  lines are kept, after `>` they are folded between lines that start with no white
  space.  The indentation is that of the first line that is not blank, unless the
  header gives it as a digit.  Blank lines at the end are dropped, except that `+`
  keeps them and `-` drops the last end of line too.

  ## Main definitions

  * `BlockHeader`, `blockHeader`: what stands behind `|` or `>`;
  * `BlockLine`, `blockLines`: the lines of the text;
  * `blockText`: the text, and what follows it.
-/
import AccessControl.Text.Decimal
import AccessControl.Yaml.Spot

namespace AccessControl.Yaml

/-! ## 1. Headers -/

inductive Chomping where
  | strip | clip | keep
deriving DecidableEq, Repr

/-- What stands behind `|` or `>`. -/
structure BlockHeader where
  chomping : Chomping
  extra : Option Nat
deriving DecidableEq, Repr

def chomping? (c : Char) : Option Chomping :=
  if c = '+' then some .keep else if c = '-' then some .strip else none

def indentation? (c : Char) : Option Nat :=
  if Text.isDigit c && c != '0' then some (Text.digitValue c) else none

/-- A header and what follows it: a sign and a digit, in any order, each of which may be
    left out. -/
def blockHeader (spots : List Spot) : BlockHeader × List Spot :=
  let first := (spots.head?.map Spot.char).getD '\n'
  let second := ((spots.drop 1).head?.map Spot.char).getD '\n'
  match chomping? first, indentation? first, chomping? second, indentation? second with
  | some chomping, _, _, some extra => (⟨chomping, some extra⟩, spots.drop 2)
  | some chomping, _, _, none => (⟨chomping, none⟩, spots.drop 1)
  | none, some extra, some chomping, _ => (⟨chomping, some extra⟩, spots.drop 2)
  | none, some extra, none, _ => (⟨.clip, some extra⟩, spots.drop 1)
  | none, none, _, _ => (⟨.clip, none⟩, spots)

/-! ## 2. Lines -/

/-- A line of a block that is not blank. -/
structure BlockLine where
  before : List Char
  text : List Char
  /-- The end that it has; at the end of a text it may have none. -/
  ending : List Char
deriving DecidableEq, Repr

inductive BlockStage where
  /-- In the indentation of a line, after blank lines with the given ends. -/
  | margin (before : List Char)
  /-- In a line, after blank lines; the characters of the line are in reverse order. -/
  | line (before read : List Char)
deriving DecidableEq, Repr

/-- The lines of a block, the ends of the blank lines after them, and what follows.
    `indent` is the indentation when it is known; otherwise it is at least `least`, and at
    least as much as the blank lines before the first line have spaces. -/
def blockLines (least : Nat) (indent : Option Nat) (stage : BlockStage) :
    List Spot → Option (List BlockLine × List Char × List Spot)
  | [] =>
    match stage with
    | .margin before => some ([], before, [])
    | .line before read => some ([⟨before, read.reverse, []⟩], [], [])
  | s :: rest =>
    match stage with
    | .line before read =>
      if isLineEnd s.char then
        (blockLines least indent (.margin []) rest).map fun r =>
          (⟨before, read.reverse, [s.char]⟩ :: r.1, r.2)
      else blockLines least indent (.line before (s.char :: read)) rest
    | .margin before =>
      let within := match indent with
        | some n => s.column < n
        | none => true
      if s.char = ' ' && within then blockLines least indent (.margin before) rest
      else if s.char = '\t' && within then none
      else
        let least := max least s.column
        if isLineEnd s.char then blockLines least indent (.margin (before ++ [s.char])) rest
        else if s.column = indent.getD least then
          blockLines least (some s.column) (.line before [s.char]) rest
        else some ([], before, s :: rest)

/-! ## 3. Texts -/

def BlockLine.startsBlank (l : BlockLine) : Bool := (l.text.head?.map isBlank).getD false

def joinAfter (folded : Bool) (previous : BlockLine) : List BlockLine → List Char
  | [] => []
  | l :: rest =>
    let ending :=
      if folded && previous.ending == ['\n'] && !previous.startsBlank && !l.startsBlank then
        if l.before.isEmpty then [' '] else []
      else previous.ending
    ending ++ l.before ++ l.text ++ joinAfter folded l rest

def joinLines (folded : Bool) : List BlockLine → List Char
  | [] => []
  | l :: rest => l.before ++ l.text ++ joinAfter folded l rest

/-- The text of a block scalar after its first character, and what follows it.  `outer` is
    the column of the block around it. -/
def blockText (folded : Bool) (outer : Option Nat) (spots : List Spot) :
    Option (List Char × List Spot) := do
  let (header, rest) := blockHeader spots
  let rest ← lineRest? rest
  let known := header.extra.map fun extra => outer.getD 0 + extra
  let least := max ((outer.map (· + 1)).getD 0) 1
  let (lines, trailing, rest) ← blockLines least known (.margin []) rest
  let ending := (lines.getLast?.map BlockLine.ending).getD []
  let tail := match header.chomping with
    | .strip => []
    | .clip => ending
    | .keep => ending ++ trailing
  return (joinLines folded lines ++ tail, rest)

end AccessControl.Yaml
