/-
  AccessControl/Json/Parser.lean
  ==============================
  **Reading JSON texts.**

  A text is one value with white space around it.  Tables keep their entries as
  they stand, repeated names included.  In a text literal control characters have to
  be escaped.

  Some of what is well formed cannot be read: a text literal with an escape of a UTF-16
  surrogate that is no half of a pair, a table with such a name in it, a number beyond
  every double, and a list or a table within 127 others.

  ## Main definitions

  * `draft? s`: what a text holds, as far as it can be read;
  * `parse? s`: the value of a text, all of which has to be readable;
  * `literal? cs`: the text literal after an opening quote, and the rest;
  * `passOver? cs`: what follows a value that is not read.

  The reader's recursion is bounded by the length of the text: every step into a
  value, an item or an entry uses up at least one character.
-/
import AccessControl.Json.Draft
import AccessControl.Json.Number
import AccessControl.Text.Decimal

namespace AccessControl.Json

open AccessControl.Text

/-! ## 1. Text literals -/

def codeUnit? (a b c d : Char) : Option Nat := do
  return ((← hexValue? a) * 16 + (← hexValue? b)) * 256 + (← hexValue? c) * 16 + (← hexValue? d)

def shortEscape? : Char → Option Char
  | '"' => some '"'
  | '\\' => some '\\'
  | '/' => some '/'
  | 'b' => some '\x08'
  | 'f' => some '\x0c'
  | 'n' => some '\n'
  | 'r' => some '\r'
  | 't' => some '\t'
  | _ => none

def isLeading (u : Nat) : Bool := 0xD800 ≤ u && u ≤ 0xDBFF

def isTrailing (u : Nat) : Bool := 0xDC00 ≤ u && u ≤ 0xDFFF

def ofSurrogates (u v : Nat) : Char := Char.ofNat (0x10000 + (u - 0xD800) * 0x400 + (v - 0xDC00))

def prepend (c : Option Char) (rest : Option (List Char) × List Char) :
    Option (List Char) × List Char :=
  (c.bind fun c => rest.1.map (c :: ·), rest.2)

/-- The characters of a text literal after its opening quote, if they can be read, and what
    follows its closing quote. -/
def literal? : List Char → Option (Option (List Char) × List Char)
  | [] => none
  | '"' :: rest => some (some [], rest)
  | '\\' :: 'u' :: a :: b :: c :: d :: rest => do
    let u ← codeUnit? a b c d
    if isLeading u then
      match rest with
      | '\\' :: 'u' :: e :: f :: g :: h :: rest =>
        let v ← codeUnit? e f g h
        let c := if isTrailing v then some (ofSurrogates u v) else none
        return prepend c (← literal? rest)
      | rest => return prepend none (← literal? rest)
    else
      let c := if isTrailing u then none else some (Char.ofNat u)
      return prepend c (← literal? rest)
  | '\\' :: e :: rest => do
    let c ← shortEscape? e
    return prepend (some c) (← literal? rest)
  | c :: rest => do
    guard (0x20 ≤ c.toNat ∧ c ≠ '\\')
    return prepend (some c) (← literal? rest)

/-! ## 2. Values that are passed over -/

def isBlank (c : Char) : Bool := c == ' ' || c == '\t' || c == '\n' || c == '\r'

def skipBlank (cs : List Char) : List Char := cs.dropWhile isBlank

def scalar? (cs : List Char) : Option (Option JsonScalar × List Char) :=
  match cs with
  | 'n' :: 'u' :: 'l' :: 'l' :: rest => some (some .null, rest)
  | 't' :: 'r' :: 'u' :: 'e' :: rest => some (some (.bool true), rest)
  | 'f' :: 'a' :: 'l' :: 's' :: 'e' :: rest => some (some (.bool false), rest)
  | '"' :: rest => (literal? rest).map fun p => (p.1.map fun t => .text (String.ofList t), p.2)
  | cs => number? cs

def name? (cs : List Char) : Option (Option String × List Char) := do
  let (name, rest) ← match skipBlank cs with
    | '"' :: rest => literal? rest
    | _ => none
  match skipBlank rest with
  | ':' :: rest => some (name.map String.ofList, rest)
  | _ => none

inductive Enclosure where
  | list | table
deriving DecidableEq, Repr

/-- What follows a value and all that is open around it, innermost first.  `done` says that
    the value itself has been passed already. -/
def passOver? : (fuel : Nat) → (done : Bool) → List Enclosure → List Char → Option (List Char)
  | 0, _, _, _ => none
  | _ + 1, true, [], cs => some cs
  | fuel + 1, true, .list :: outer, cs =>
    match skipBlank cs with
    | ',' :: rest => passOver? fuel false (.list :: outer) rest
    | ']' :: rest => passOver? fuel true outer rest
    | _ => none
  | fuel + 1, true, .table :: outer, cs =>
    match skipBlank cs with
    | ',' :: rest =>
      match name? rest with
      | some (_, rest) => passOver? fuel false (.table :: outer) rest
      | none => none
    | '\x7d' :: rest => passOver? fuel true outer rest
    | _ => none
  | fuel + 1, false, outer, cs =>
    match skipBlank cs with
    | '[' :: rest =>
      match skipBlank rest with
      | ']' :: rest => passOver? fuel true outer rest
      | _ => passOver? fuel false (.list :: outer) rest
    | '\x7b' :: rest =>
      match skipBlank rest with
      | '\x7d' :: rest => passOver? fuel true outer rest
      | _ =>
        match name? rest with
        | some (_, rest) => passOver? fuel false (.table :: outer) rest
        | none => none
    | cs =>
      match scalar? cs with
      | some (_, rest) => passOver? fuel true outer rest
      | none => none

/-! ## 3. Values -/

def tableOf (entries : List (Option String × JsonDraft)) : JsonDraft :=
  match entries.mapM fun e => e.1.map fun name => (name, e.2) with
  | some entries => .table entries
  | none => .scalar none

mutual

/-- The value at the start of a text, which is read at most `depth` deep, and the rest. -/
def value? : (fuel depth : Nat) → List Char → Option (JsonDraft × List Char)
  | 0, _, _ => none
  | fuel + 1, depth, cs =>
    match depth, skipBlank cs with
    | 0, '[' :: rest => (passOver? fuel false [] ('[' :: rest)).map fun r => (.scalar none, r)
    | 0, '\x7b' :: rest =>
      (passOver? fuel false [] ('\x7b' :: rest)).map fun r => (.scalar none, r)
    | depth + 1, '[' :: rest =>
      match skipBlank rest with
      | ']' :: after => some (.list [], after)
      | _ => (items? fuel depth rest).map fun p => (.list p.1, p.2)
    | depth + 1, '\x7b' :: rest =>
      match skipBlank rest with
      | '\x7d' :: after => some (.table [], after)
      | _ => (entries? fuel depth rest).map fun p => (tableOf p.1, p.2)
    | _, cs => (scalar? cs).map fun p => (.scalar p.1, p.2)

def items? : (fuel depth : Nat) → List Char → Option (List JsonDraft × List Char)
  | 0, _, _ => none
  | fuel + 1, depth, cs => do
    let (item, rest) ← value? fuel depth cs
    match skipBlank rest with
    | ',' :: rest =>
      let (items, after) ← items? fuel depth rest
      return (item :: items, after)
    | ']' :: after => return ([item], after)
    | _ => none

def entries? :
    (fuel depth : Nat) → List Char → Option (List (Option String × JsonDraft) × List Char)
  | 0, _, _ => none
  | fuel + 1, depth, cs => do
    let (name, rest) ← name? cs
    let (v, rest) ← value? fuel depth rest
    match skipBlank rest with
    | ',' :: rest =>
      let (entries, after) ← entries? fuel depth rest
      return ((name, v) :: entries, after)
    | '\x7d' :: after => return ([(name, v)], after)
    | _ => none

end

def depthLimit : Nat := 127

/-- What a text holds, if it is one value with white space around it. -/
def draft? (s : String) : Option JsonDraft := do
  let cs := s.toList
  let (v, rest) ← value? (2 * cs.length + 2) depthLimit cs
  guard (skipBlank rest = [])
  return v

/-- The value of a text, if all of it can be read. -/
def parse? (s : String) : Option Json := (draft? s).bind Document.json?

end AccessControl.Json
