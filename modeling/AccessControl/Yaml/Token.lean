/-
  AccessControl/Yaml/Token.lean
  =============================
  **Tokens, and what is open where they are read.**

  A text is a row of tokens: marks, names and scalars.  Where a block starts and where it
  ends is told by the columns of its tokens, and stands in the row as tokens of their own.
  That a token is the start of a key is seen at its colon only, so the marks of the key,
  and of a table that it opens, are put into the row in front of what was read before.
  A key is on one line and not longer than 1024 characters.  Outside brackets a token in
  the column of the block around it has to be a key if it may be one.

  ## Main definitions

  * `Token`: what a text is made of;
  * `KeyStart`: where a key may have started;
  * `Outline`: the tokens so far, the open blocks and brackets, and the possible keys;
  * `Outline.openBlock`, `closeBlocks`, `expectKey`, `forgetKey`: its steps.
-/
import AccessControl.Yaml.Label
import AccessControl.Yaml.Value

namespace AccessControl.Yaml

/-! ## 1. Tokens -/

/-- What a text is made of. -/
inductive Token where
  | directive (value : Directive)
  | documentStart | documentEnd
  | listStart | tableStart | blockEnd
  | listOpen | listClose | tableOpen | tableClose
  | comma | item | key | value
  | anchor (name : String)
  | tag (mark : TagMark)
  | alias (name : String)
  | scalar (text : String) (style : ScalarStyle)
deriving DecidableEq, Repr

/-! ## 2. What is open -/

/-- A place where a key may have started. -/
structure KeyStart where
  required : Bool
  index : Nat
  line : Nat
  column : Nat
  before : Nat
deriving DecidableEq, Repr

/-- What has been read of a text. -/
structure Outline where
  tokens : List Token
  count : Nat
  columns : List Nat
  /-- The last place where a key may have started: within each open bracket, the innermost
      first, and outside of all brackets. -/
  starts : List (Option KeyStart)
  fresh : Bool
deriving DecidableEq, Repr

namespace Outline

def empty : Outline := ⟨[], 0, [], [none], true⟩

def flow (o : Outline) : Bool := !(o.starts.drop 1).isEmpty

def add (o : Outline) (t : Token) : Outline :=
  { o with tokens := t :: o.tokens, count := o.count + 1 }

def insert (o : Outline) (before : Nat) (t : Token) : Outline :=
  { o with tokens := o.tokens.insertIdx (o.count - before) t, count := o.count + 1 }

/-! ## 3. Blocks -/

/-- A block is opened behind the first `before` tokens, if the column is further to the
    right than that of the block around it.  Within brackets there are no blocks. -/
def openBlock (o : Outline) (column before : Nat) (t : Token) : Outline :=
  let further := match o.columns with
    | [] => true
    | outer :: _ => decide (outer < column)
  if !o.flow && further then { o.insert before t with columns := column :: o.columns } else o

/-- Outside brackets the blocks that do not satisfy a condition on their columns are
    closed, from the innermost on. -/
def closeBlocks (o : Outline) (keep : Nat → Bool) : Outline :=
  if o.flow then o
  else
    let closed := o.columns.takeWhile fun c => !keep c
    { o with
      tokens := closed.map (fun _ => Token.blockEnd) ++ o.tokens
      count := o.count + closed.length
      columns := o.columns.dropWhile fun c => !keep c }

/-! ## 4. Keys -/

/-- The last place where a key may have started is none any more; it is a fault if a key
    was required there. -/
def forgetKey (o : Outline) : Option Outline :=
  match o.starts with
  | some k :: outer => if k.required then none else some { o with starts := none :: outer }
  | _ => some o

/-- A key may start at a place, if one may start there at all. -/
def expectKey (o : Outline) (s : Spot) : Option Outline :=
  if o.fresh then do
    let o ← o.forgetKey
    let required := !o.flow && o.columns.head? == some s.column
    let start : KeyStart := ⟨required, s.index, s.line, s.column, o.count⟩
    return { o with starts := some start :: o.starts.drop 1 }
  else some o

def keyLimit : Nat := 1024

/-- A key cannot go on to a place: it is on another line, or too far away. -/
def KeyStart.isStale (k : KeyStart) (s : Spot) : Bool :=
  k.line < s.line || k.index + keyLimit < s.index

/-- No key goes on to a place if it cannot; it is a fault if one had to. -/
def expireKeys (o : Outline) (s : Spot) : Option Outline :=
  let stale (start : Option KeyStart) : Bool := start.any fun k => KeyStart.isStale k s
  if !o.starts.any stale then some o
  else if o.starts.any fun start => stale start && start.any KeyStart.required then none
  else some { o with starts := o.starts.map fun start => if stale start then none else start }

/-! ## 5. Brackets -/

def openFlow (o : Outline) (t : Token) : Outline :=
  { o.add t with starts := none :: o.starts, fresh := true }

def closeFlow (o : Outline) (t : Token) : Option Outline := do
  let o ← o.forgetKey
  return { o.add t with starts := if o.flow then o.starts.drop 1 else o.starts, fresh := false }

end Outline

end AccessControl.Yaml
