/-
  AccessControl/CommandLine/Report.lean
  =====================================
  **What a command reports, and what the program says in trouble.**

  A report is a row of named texts and truth values.  For people it is one or two lines
  that the command chooses; for programs it is a JSON table, or YAML entries, in the
  order of the row.

  When the program ends without success, it says first what went wrong, then what caused
  it, and what caused that.  The causes are indented, and numbered when there are several.

  ## Main definitions

  * `Report`: named data, and the words for people;
  * `Report.render`: the report in a format;
  * `Trouble`: what went wrong, and its causes, outermost first;
  * `Trouble.text`: the words of the program.
-/
import AccessControl.CommandLine.Arguments
import AccessControl.Json.Printer
import AccessControl.Text.Decimal
import AccessControl.Text.Split
import AccessControl.Yaml.Printer

namespace AccessControl.CommandLine

/-! ## 1. Reports -/

inductive Datum where
  | text (value : String)
  | flag (value : Bool)
deriving DecidableEq, Repr

def Datum.encode : Datum → Json
  | .text value => Json.text value
  | .flag value => Json.bool value

def Datum.yamlEntry (name : String) : Datum → String
  | .text value => Yaml.textEntry name value
  | .flag value => Yaml.flagEntry name value

/-- What a command reports. -/
structure Report where
  data : List (String × Datum)
  words : String
deriving DecidableEq, Repr

/-- A report in a format. -/
def Report.render (r : Report) : OutputFormat → String
  | .human => r.words ++ "\n"
  | .json => Json.pretty (.table (r.data.map fun e => (e.1, e.2.encode))) ++ "\n"
  | .yaml => String.join (r.data.map fun e => e.2.yamlEntry e.1)

/-! ## 2. Troubles -/

/-- What went wrong, and its causes, outermost first. -/
structure Trouble where
  message : String
  causes : List String
deriving DecidableEq, Repr

namespace Trouble

def plain (message : String) : Trouble := ⟨message, []⟩

def ofCauses : List String → Trouble
  | [] => ⟨"", []⟩
  | message :: causes => ⟨message, causes⟩

def within (t : Trouble) (message : String) : Trouble := ⟨message, t.message :: t.causes⟩

def numberMark (n : Nat) : String :=
  let ds := Text.digits n
  String.ofList (List.replicate (5 - ds.length) ' ' ++ ds) ++ ": "

/-- A cause on lines of its own: the first after a mark, the others as far to the right
    as the text of the first. -/
def causeText (number : Option Nat) (cause : String) : String :=
  let (mark, margin) := match number with
    | some n => (numberMark n, "       ")
    | none => ("    ", "    ")
  let lines := (Text.pieces '\n' cause.toList).map String.ofList
  mark ++ String.intercalate ("\n" ++ margin) lines

def causesText (causes : List String) : String :=
  let shown := match causes with
    | [cause] => [causeText none cause]
    | causes => causes.mapIdx fun n cause => causeText (some n) cause
  "\n\nCaused by:" ++ String.join (shown.map fun c => "\n" ++ c)

/-- What the program says. -/
def text (t : Trouble) : String :=
  "Error: " ++ t.message ++ (if t.causes.isEmpty then "" else causesText t.causes) ++ "\n"

end Trouble

end AccessControl.CommandLine
