/-
  AccessControl/CommandLine/Request.lean
  ======================================
  **What a command line asks for.**

  A command line gives options for the whole program, and one command with options of
  its own.  A password comes from the command line or from the standard input, not from
  both; whether it comes from anywhere is asked only when it is needed.

  ## Main definitions

  * `Command`: the commands;
  * `Globals`: the options for the whole program;
  * `Request.parse`: the request of an argument list.
-/
import AccessControl.CommandLine.Arguments

namespace AccessControl.CommandLine

/-! ## 1. Requests -/

inductive PasswordSource where
  | argument (password : String)
  | input
deriving DecidableEq, Repr

/-- A check: may this user, with this password, do this with the resource? -/
structure CheckRequest where
  seed : Option String
  user : String
  password : String
  action : Permission
  resource : String
  handler : Option String
deriving DecidableEq, Repr

inductive Command where
  | hashPassword (source : Option PasswordSource) (stored : Option String)
  | mintSession (user : String)
  | verifySession (id : String)
  | check (request : CheckRequest)
  | signature (path : String)
deriving DecidableEq, Repr

structure Globals where
  config : Option String
  logLevel : String
  debug : Bool
  format : OutputFormat
deriving DecidableEq, Repr

structure Request where
  globals : Globals
  command : Command
deriving DecidableEq, Repr

/-! ## 2. Options of the program -/

def commonOptions : List OptionForm :=
  [⟨"version", some 'V', .version⟩, ⟨"help", some 'h', .help⟩]

def globalOptions : List OptionForm :=
  [⟨"config", some 'c', .takes .path⟩, ⟨"log-level", some 'l', .takes .text⟩,
   ⟨"debug", some 'd', .flag⟩, ⟨"output", some 'o', .takes .format⟩]

def Globals.of (x : Gathered) : Globals :=
  { config := x.value? "config"
    logLevel := (x.value? "log-level").getD "info"
    debug := x.has "debug"
    format := ((x.value? "output").bind OutputFormat.named?).getD .human }

/-! ## 3. Commands -/

/-- A command that can be given: its name, its options and words, and what they make; they
    make nothing if one of them is missing or two exclude each other. -/
structure CommandForm where
  name : String
  options : List OptionForm
  places : List ValueKind
  make : Gathered → Option Command

def CommandForm.grammar (c : CommandForm) : Grammar := ⟨c.options ++ commonOptions, c.places, []⟩

def hashPasswordForm : CommandForm where
  name := "hash-password"
  options := [⟨"password", none, .takes .text⟩, ⟨"stdin", none, .flag⟩,
    ⟨"verify", none, .takes .text⟩]
  places := []
  make x :=
    match x.value? "password", x.has "stdin" with
    | some _, true => none
    | some password, false => some (.hashPassword (some (.argument password)) (x.value? "verify"))
    | none, true => some (.hashPassword (some .input) (x.value? "verify"))
    | none, false => some (.hashPassword none (x.value? "verify"))

def mintSessionForm : CommandForm where
  name := "mint-session"
  options := [⟨"user", none, .takes .text⟩]
  places := []
  make x := (x.value? "user").map .mintSession

def verifySessionForm : CommandForm where
  name := "verify-session"
  options := []
  places := [.text]
  make x := x.words.head?.map .verifySession

def checkForm : CommandForm where
  name := "check"
  options := [⟨"seed", none, .takes .path⟩, ⟨"user", none, .takes .text⟩,
    ⟨"password", none, .takes .text⟩, ⟨"action", none, .takes .permission⟩,
    ⟨"resource", none, .takes .text⟩, ⟨"handler", none, .takes .text⟩]
  places := []
  make x := do
    let user ← x.value? "user"
    let password ← x.value? "password"
    let action ← (Permission.named? (← x.value? "action")).toOption
    let resource ← x.value? "resource"
    return .check
      { seed := x.value? "seed"
        user := user
        password := password
        action := action
        resource := resource
        handler := x.value? "handler" }

def signatureForm : CommandForm where
  name := "signature"
  options := []
  places := [.path]
  make x := x.words.head?.map .signature

def commandForms : List CommandForm :=
  [hashPasswordForm, mintSessionForm, verifySessionForm, checkForm, signatureForm]

def commandNames : List String := commandForms.map CommandForm.name ++ ["help"]

def mainGrammar : Grammar := ⟨globalOptions ++ commonOptions, [], commandNames⟩

/-! ## 4. Reading a command line -/

inductive Halt where
  | misuse
  | version (program : String)
  | help
deriving DecidableEq, Repr

def Stop.halt (program : String) : Stop → Halt
  | .misuse => .misuse
  | .version => .version program
  | .help => .help

def programName : String := "safeharbor"

def isHelpTopic : List String → Bool
  | [] => true
  | [name] => commandNames.contains name
  | _ => false

/-- The command with a name, from what is left for it. -/
def Command.parse (name : String) (args : List String) : Except Halt Command :=
  if name = "help" then .error (if isHelpTopic args then .help else .misuse)
  else
    match commandForms.find? fun c => c.name == name with
    | none => .error .misuse
    | some form => do
      let given ← (form.grammar.gather args).mapError (Stop.halt (programName ++ "-" ++ name))
      match form.make given with
      | some command => return command
      | none => .error .misuse

/-- The request of an argument list. -/
def Request.parse (args : List String) : Except Halt Request := do
  let given ← (mainGrammar.gather args).mapError (Stop.halt programName)
  match given.command with
  | some (name, rest) =>
    let command ← Command.parse name rest
    let given ← given.withLate.mapError (Stop.halt programName)
    return ⟨Globals.of given, command⟩
  | none => .error .misuse

end AccessControl.CommandLine
