/-
  AccessControl/CommandLine/Arguments.lean
  ========================================
  **Options and words in an argument list.**

  An argument list is read from left to right.  An option is written with two hyphens
  and its name, or with one hyphen and its letter; several letters can share a hyphen.
  What an option takes stands behind an equals sign, right behind the letter, or in the
  next argument, which must not look like an option then.  After two hyphens alone all
  arguments are words.  The word that names a command ends the list: what follows is
  read by the command.

  The first thing that is wrong decides, and an option that asks for the version or for
  help counts as soon as it is read.  A value in an argument of its own is looked at with
  the next option or word, or at the end; right in front of a command, after the command.

  ## Main definitions

  * `OptionForm`, `Grammar`: what can be given;
  * `Item`, `Grammar.scan`: what is given;
  * `Gathered`, `Grammar.gather`: what is given, each option once and each value checked.
-/
import AccessControl.Permission.Basic
import AccessControl.Text.Split

namespace AccessControl.CommandLine

/-! ## 1. Forms -/

inductive OutputFormat where
  | human | json | yaml
deriving DecidableEq, Repr

def OutputFormat.named? (name : String) : Option OutputFormat :=
  if name = "human" then some .human
  else if name = "json" then some .json
  else if name = "yaml" then some .yaml
  else none

inductive ValueKind where
  | text | path | format | permission
deriving DecidableEq, Repr

def ValueKind.accepts : ValueKind → String → Bool
  | .text, _ => true
  | .path, value => !value.isEmpty
  | .format, value => (OutputFormat.named? value).isSome
  | .permission, value =>
    match Permission.named? value with
    | .ok _ => true
    | .error _ => false

inductive OptionKind where
  | flag
  | takes (kind : ValueKind)
  | version
  | help
deriving DecidableEq, Repr

/-- An option: its name, its letter, and what it does. -/
structure OptionForm where
  name : String
  letter : Option Char
  kind : OptionKind
deriving DecidableEq, Repr

def OptionForm.takesValue (o : OptionForm) : Bool :=
  match o.kind with
  | .takes _ => true
  | _ => false

/-- What can be given: options, words in their places, and the commands that may
    follow. -/
structure Grammar where
  options : List OptionForm
  places : List ValueKind
  commands : List String
deriving DecidableEq, Repr

/-! ## 2. Items -/

/-- What is given. -/
inductive Item where
  | option (form : OptionForm) (value : String)
  | word (text : String)
  /-- A command, and the arguments that are left for it; the value of an option right in
      front of it is looked at later. -/
  | command (late : Option (OptionForm × String)) (name : String) (rest : List String)
  | fault
deriving DecidableEq, Repr

def isWord : List Char → Bool
  | '-' :: _ :: _ => false
  | _ => true

namespace Grammar

/-- The options of an argument with one hyphen, and the last of them if its value is
    still to come. -/
def readLetters (g : Grammar) : List Char → List Item × Option OptionForm
  | [] => ([], none)
  | c :: rest =>
    match g.options.find? fun o => o.letter == some c with
    | none => ([.fault], none)
    | some o =>
      if o.takesValue then
        match rest with
        | [] => ([], some o)
        | '=' :: value => ([.option o (String.ofList value)], none)
        | value => ([.option o (String.ofList value)], none)
      else
        let (items, waiting) := readLetters g rest
        (.option o "" :: items, waiting)

/-- The option of an argument with two hyphens, or the option if its value is still to
    come. -/
def readName (g : Grammar) (body : List Char) : List Item × Option OptionForm :=
  let (name, value?) := match Text.cut '=' body with
    | some (name, value) => (name, some value)
    | none => (body, none)
  match g.options.find? fun o => o.name.toList == name with
  | none => ([.fault], none)
  | some o =>
    match o.takesValue, value? with
    | true, some value => ([.option o (String.ofList value)], none)
    | true, none => ([], some o)
    | false, some _ => ([.fault], none)
    | false, none => ([.option o ""], none)

/-- What an argument list gives; `waiting` is an option whose value is still to come. -/
def scan (g : Grammar) (waiting : Option OptionForm) : List String → List Item
  | [] => if waiting.isSome then [.fault] else []
  | arg :: rest =>
    match waiting with
    | some o =>
      if isWord arg.toList then
        match rest with
        | next :: left =>
          if g.commands.contains next then [.command (some (o, arg)) next left]
          else .option o arg :: scan g none rest
        | [] => [.option o arg]
      else [.fault]
    | none =>
      if arg = "--" then rest.map .word
      else if g.commands.contains arg then [.command none arg rest]
      else
        match arg.toList with
        | '-' :: '-' :: body =>
          let (items, waiting) := g.readName body
          items ++ scan g waiting rest
        | '-' :: c :: letters =>
          let (items, waiting) := g.readLetters (c :: letters)
          items ++ scan g waiting rest
        | _ => .word arg :: scan g none rest

end Grammar

/-! ## 3. Gathering -/

inductive Stop where
  | misuse
  | version
  | help
deriving DecidableEq, Repr

/-- What is given, read so far. -/
structure Gathered where
  options : List (String × String)
  words : List String
  command : Option (String × List String)
  /-- An option right in front of the command, which is not looked at yet. -/
  late : Option (OptionForm × String)
deriving DecidableEq, Repr

namespace Gathered

def empty : Gathered := ⟨[], [], none, none⟩

def value? (x : Gathered) (name : String) : Option String := x.options.lookup name

def has (x : Gathered) (name : String) : Bool := (x.value? name).isSome

def withOption (x : Gathered) (name value : String) : Except Stop Gathered :=
  if x.has name then .error .misuse
  else .ok { x with options := x.options ++ [(name, value)] }

def withItem (places : List ValueKind) (x : Gathered) : Item → Except Stop Gathered
  | .fault => .error .misuse
  | .command late name rest => .ok { x with command := some (name, rest), late }
  | .word text =>
    match places[x.words.length]? with
    | some kind =>
      if kind.accepts text then .ok { x with words := x.words ++ [text] } else .error .misuse
    | none => .error .misuse
  | .option o value =>
    match o.kind with
    | .version => .error .version
    | .help => .error .help
    | .flag => x.withOption o.name value
    | .takes kind => if kind.accepts value then x.withOption o.name value else .error .misuse

def withLate (x : Gathered) : Except Stop Gathered :=
  match x.late with
  | some (o, value) => { x with late := none }.withItem [] (.option o value)
  | none => .ok x

def withItems (places : List ValueKind) (x : Gathered) : List Item → Except Stop Gathered
  | [] => .ok x
  | item :: rest => do
    let x ← x.withItem places item
    withItems places x rest

end Gathered

/-- What an argument list gives, each option once and each value checked. -/
def Grammar.gather (g : Grammar) (args : List String) : Except Stop Gathered :=
  Gathered.empty.withItems g.places (g.scan none args)

end AccessControl.CommandLine
