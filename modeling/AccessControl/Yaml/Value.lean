/-
  AccessControl/Yaml/Value.lean
  =============================
  **YAML values.**

  A YAML scalar is a text that was written in some style, with or without a tag.  What it
  stands for is decided by the reader that wants it: any scalar can be a text, and a plain
  one also a truth value, a whole number or nothing.  A text that was written as a literal
  block can be these too, if its tag says so.  Only the words of the core schema count, so
  `yes` and `off` are texts.  A plain scalar without characters is what stands where
  nothing is written.

  ## Main definitions

  * `YamlScalar`, `Yaml`: documents over the YAML scalars;
  * `YamlScalar.count?`, `flagWord?`, `absent?`, `name?`: what scalars stand for.
-/
import AccessControl.Document.Basic
import AccessControl.Text.Decimal

namespace AccessControl

/-! ## 1. Scalars -/

inductive ScalarStyle where
  | plain
  | literal
  | marked
deriving DecidableEq, Repr, Inhabited

/-- A text, how it was written, and its tag. -/
structure YamlScalar where
  text : String
  style : ScalarStyle
  tag : Option String
deriving DecidableEq, Repr, Inhabited

namespace YamlScalar

def trueWords : List String := ["true", "True", "TRUE"]

def falseWords : List String := ["false", "False", "FALSE"]

def nullWords : List String := ["null", "Null", "NULL", "~"]

/-- The truth value that a word stands for. -/
def flagWord? (text : String) : Option Bool :=
  if trueWords.contains text then some true
  else if falseWords.contains text then some false
  else none

/-- More than one digit with a zero in front: such a row of digits is no number. -/
def isPaddedDigits (cs : List Char) : Bool :=
  match cs with
  | '0' :: d :: rest => (d :: rest).all Text.isDigit
  | _ => false

/-- A number without a sign: hexadecimal, octal or binary after `0x`, `0o` or `0b`,
    decimal otherwise. -/
def magnitude? (cs : List Char) : Option Nat :=
  match cs with
  | '0' :: 'x' :: rest => Text.inRadix? 16 rest
  | '0' :: 'o' :: rest => Text.inRadix? 8 rest
  | '0' :: 'b' :: rest => Text.inRadix? 2 rest
  | cs => if isPaddedDigits cs then none else Text.inRadix? 10 cs

def wholeNumber? (text : String) : Option Int :=
  match text.toList with
  | '+' :: rest => (magnitude? rest).map Int.ofNat
  | '-' :: rest => (magnitude? rest).map fun n => -Int.ofNat n
  | cs => (magnitude? cs).map Int.ofNat

/-- The count that a text stands for.  No sign but a plus can stand in front of it, not
    even in front of zero. -/
def count? (text : String) : Option Nat :=
  match text.toList with
  | '+' :: rest => magnitude? rest
  | cs => magnitude? cs

def coreTag (name : String) : String := "tag:yaml.org,2002:" ++ name

/-- The text of a scalar that may stand for something of the core schema with the given
    name: it was written plainly, or as a literal block with the tag of that name. -/
def word? (s : YamlScalar) (name : String) : Option String :=
  match s.style with
  | .plain => some s.text
  | .literal => if s.tag = some (coreTag name) then some s.text else none
  | .marked => none

def isNothing (text : String) : Bool := text.isEmpty || nullWords.contains text

/-- The name that a scalar stands for where one of a list of names is wanted.  A tag of
    its own is a name, and nothing may stand behind it. -/
def name? (s : YamlScalar) : Option String :=
  match s.tag.map String.toList with
  | some ('!' :: name) =>
    if s.style = .plain && isNothing s.text then some (String.ofList name) else none
  | _ => some s.text

/-- Whether a scalar says that an optional value is absent: it is plain, and nothing or a
    word for nothing.  A tag says what it is: only a word can be the nothing of the core
    schema, and what has another tag is something. -/
def absent? (s : YamlScalar) : Option Bool :=
  match s.style, s.tag with
  | .plain, none => some (isNothing s.text)
  | .plain, some tag =>
    if tag = coreTag "null" then if nullWords.contains s.text then some true else none
    else some false
  | _, _ => some false

end YamlScalar

/-- Any scalar is a text, and plain ones stand for other things too. -/
instance : Scalar YamlScalar where
  text? s := some s.text
  flag? s := (s.word? "bool").bind YamlScalar.flagWord?
  number? s := ((s.word? "int").bind YamlScalar.count?).map Int.ofNat
  name? := YamlScalar.name?
  absent? := YamlScalar.absent?
  isVoid s := s.style == .plain && s.text.isEmpty
  compact := false

/-! ## 2. Values -/

abbrev Yaml := Document YamlScalar

namespace Yaml

abbrev plain (text : String) : Yaml := .scalar ⟨text, .plain, none⟩

abbrev void : Yaml := plain ""

end Yaml

end AccessControl
