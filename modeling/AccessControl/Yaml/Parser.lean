/-
  AccessControl/Yaml/Parser.lean
  ==============================
  **Reading YAML texts.**

  A text is read in three steps: its characters make up tokens, the tokens a node, and the
  node with its aliases a value, as far as a reader looks into it.  A text is one document.
  A text without one reads as nothing.

  An alias stands for the node whose name it repeats; the name has to be given to a node
  before.  The names of a document are numbered: a node that is given a name gets the count
  of the names so far, and among nodes with one number the last counts, also for the
  aliases before it.

  So a node may hold an alias of itself, or of a node around it, and a short text may stand
  for a huge value.  Aliases are followed only where a reader looks, as its shape says, and
  only so often for each part of the document.

  ## Main definitions

  * `Node.numbered?`: a node with numbers in place of names;
  * `Node.size`: the count of the parts of a node;
  * `Following`: readings that follow aliases up to a limit;
  * `Node.read`: the value of a node as far as a shape goes;
  * `Node.value?`: the same for the node of a document, within its limit;
  * `Yaml.parse?`: the value of a text as far as a shape goes.
-/
import AccessControl.Document.Record
import AccessControl.Yaml.Lexer
import AccessControl.Yaml.Node

namespace AccessControl.Yaml

namespace Node

/-! ## 1. Numbers of names -/

abbrev Numbers := List (String × Nat)

/-- One more node has a name, if it has one: its number is the count of names so far. -/
def withName (numbers : Numbers) : Option String → Option Nat × Numbers
  | some name =>
    (some numbers.length, (name, numbers.length) :: numbers.filter fun n => n.1 != name)
  | none => (none, numbers)

mutual

/-- A node with numbers in place of names.  Every alias has to have a number. -/
def numbered? (numbers : Numbers) : Node String → Option (Node Nat × Numbers)
  | .alias name => (numbers.lookup name).map fun n => (.alias n, numbers)
  | .scalar name value =>
    let (number, numbers) := withName numbers name
    some (.scalar number value, numbers)
  | .list name items =>
    let (number, numbers) := withName numbers name
    (numberedItems? numbers items).map fun r => (.list number r.1, r.2)
  | .table name entries =>
    let (number, numbers) := withName numbers name
    (numberedEntries? numbers entries).map fun r => (.table number r.1, r.2)
termination_by structural n => n

def numberedItems? (numbers : Numbers) : List (Node String) → Option (List (Node Nat) × Numbers)
  | [] => some ([], numbers)
  | n :: ns =>
    (numbered? numbers n).bind fun r =>
      (numberedItems? r.2 ns).map fun s => (r.1 :: s.1, s.2)
termination_by structural ns => ns

def numberedEntries? (numbers : Numbers) :
    List (Node String × Node String) → Option (List (Node Nat × Node Nat) × Numbers)
  | [] => some ([], numbers)
  | (k, v) :: es =>
    (numbered? numbers k).bind fun r =>
      (numbered? r.2 v).bind fun s =>
        (numberedEntries? s.2 es).map fun t => ((r.1, s.1) :: t.1, t.2)
termination_by structural es => es

end

def withNumber (found : List (Nat × Node Nat)) (number : Option Nat) (node : Node Nat) :
    List (Nat × Node Nat) :=
  match number with
  | some n => (n, node) :: found
  | none => found

mutual

def definitions (found : List (Nat × Node Nat)) : Node Nat → List (Nat × Node Nat)
  | .alias _ => found
  | .scalar number value => withNumber found number (.scalar number value)
  | .list number items => definitionsItems (withNumber found number (.list number items)) items
  | .table number entries =>
    definitionsEntries (withNumber found number (.table number entries)) entries
termination_by structural n => n

def definitionsItems (found : List (Nat × Node Nat)) : List (Node Nat) → List (Nat × Node Nat)
  | [] => found
  | n :: ns => definitionsItems (definitions found n) ns
termination_by structural ns => ns

def definitionsEntries (found : List (Nat × Node Nat)) :
    List (Node Nat × Node Nat) → List (Nat × Node Nat)
  | [] => found
  | (k, v) :: es => definitionsEntries (definitions (definitions found k) v) es
termination_by structural es => es

end

/-! ## 2. Sizes -/

mutual

/-- The count of the parts of a node.  A list and a table have a start and an end. -/
def size {ν : Type} : Node ν → Nat
  | .alias _ => 1
  | .scalar _ _ => 1
  | .list _ items => sizeItems items + 2
  | .table _ entries => sizeEntries entries + 2
termination_by structural n => n

def sizeItems {ν : Type} : List (Node ν) → Nat
  | [] => 0
  | n :: ns => size n + sizeItems ns
termination_by structural ns => ns

def sizeEntries {ν : Type} : List (Node ν × Node ν) → Nat
  | [] => 0
  | (k, v) :: es => size k + size v + sizeEntries es
termination_by structural es => es

end

/-! ## 3. Following aliases -/

/-- A reading that follows aliases: the state is how many more it may follow. -/
abbrev Following := StateT Nat Option

def follow : Following Unit := fun left => if left = 0 then none else some ((), left - 1)

/-- The node that a node stands for, which is another one if it is an alias. -/
def resolve (named : Nat → Node Nat) : Node Nat → Following (Node Nat)
  | .alias number => do
    follow
    return named number
  | node => return node

abbrev Reader := Node Nat → Following Yaml

/-- An entry of a record, if its name is known, which has to be a scalar. -/
def readEntry (named : Nat → Node Nat) (readers : List (String × Reader))
    (entry : Node Nat × Node Nat) : Following (Option (String × Yaml)) := do
  match ← resolve named entry.1 with
  | .scalar _ key =>
    match readers.lookup key.text with
    | some read => return some (key.text, ← read entry.2)
    | none => return none
  | _ => failure

mutual

/-- The value of a node as far as a shape goes.  Where a list or a record is expected there
    may also be a scalar, for it to be written as nothing at all. -/
def read (named : Nat → Node Nat) : Shape → Reader
  | .leaf => fun node => do
    match ← resolve named node with
    | .scalar _ s => return .scalar s
    | _ => failure
  | .list item => fun node => do
    match ← resolve named node with
    | .scalar _ s => return .scalar s
    | .list _ items => return .list (← items.mapM (read named item))
    | _ => failure
  | .record fields => fun node => do
    match ← resolve named node with
    | .scalar _ s => return .scalar s
    | .table _ entries =>
      return .table (← entries.filterMapM (readEntry named (readers named fields)))
    | _ => failure
termination_by structural shape => shape

def readers (named : Nat → Node Nat) : List (String × Shape) → List (String × Reader)
  | [] => []
  | (name, shape) :: fields => (name, read named shape) :: readers named fields
termination_by structural fields => fields

end

/-- How often aliases may be followed for each part of a document. -/
def followedPerPart : Nat := 100

/-- The value of the node of a document as far as a shape goes, if every alias in it has a
    meaning and not too many are followed. -/
def value? (shape : Shape) (node : Node String) : Option Yaml := do
  let (node, numbers) ← numbered? [] node
  let found := definitions [] node
  let nodes := (Array.range (numbers.length + 1)).map fun n => (found.lookup n).getD void
  let named (number : Nat) : Node Nat := nodes.getD number void
  let (value, _) ← (read named shape node).run (followedPerPart * node.size)
  return value

end Node

/-! ## 4. Texts -/

/-- The value of a text as far as a shape goes. -/
def parse? (shape : Shape) (text : String) : Option Yaml := do
  match ← document? (← tokens? text.toList) with
  | some node => node.value? shape
  | none => return void

end AccessControl.Yaml
