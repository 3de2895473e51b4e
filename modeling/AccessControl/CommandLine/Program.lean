/-
  AccessControl/CommandLine/Program.lean
  ======================================
  **The program.**

  A command line that cannot be read ends the program with the exit code two.  One that
  can be read is carried out: the level of logging is checked, the settings are read,
  and the command does its work.  What goes wrong from then on is said on the standard
  error stream, after the report if there is one, and the exit code is one.

  ## Main definitions

  * `Outcome`: the exit code, and what is written;
  * `perform`: a request is carried out;
  * `program`: the whole program.

  ## Main statements

  * `exitCode_eq_zero_iff`: the exit code of a request is zero exactly if there is a
    report with which nothing is wrong.
-/
import AccessControl.CommandLine.Commands

namespace AccessControl.CommandLine

/-! ## 1. Outcomes -/

/-- How a program ends: the exit code, and what is written on the standard streams. -/
structure Outcome where
  exitCode : UInt8
  output : String
  errors : String
deriving DecidableEq, Repr

def Outcome.of (format : OutputFormat) : Except Trouble Reply → Outcome
  | .error trouble => ⟨1, "", trouble.text⟩
  | .ok ⟨report, none⟩ => ⟨0, report.render format, ""⟩
  | .ok ⟨report, some trouble⟩ => ⟨1, report.render format, trouble.text⟩

/-- The exit code is zero exactly if there is a report with which nothing is wrong. -/
theorem Outcome.exitCode_eq_zero_iff {format : OutputFormat} {r : Except Trouble Reply} :
    (Outcome.of format r).exitCode = 0 ↔ ∃ report, r = .ok ⟨report, none⟩ := by
  rcases r with trouble | ⟨report, _ | trouble⟩
  · simp [Outcome.of]
  · simp [Outcome.of]
  · simp [Outcome.of]

def programVersion : String := "0.1.0"

def usage : String :=
  "Usage: " ++ programName ++ " [OPTIONS] <COMMAND>\n\nCommands:\n"
    ++ String.join (commandNames.map fun name => "  " ++ name ++ "\n")

def Halt.outcome : Halt → Outcome
  | .misuse => ⟨2, "", usage⟩
  | .version program => ⟨0, program ++ " " ++ programVersion ++ "\n", ""⟩
  | .help => ⟨0, usage, ""⟩

/-! ## 2. Carrying out a request -/

def levelTrouble : Trouble :=
  ⟨"Invalid log level",
   ["error parsing level: expected one of " ++ String.intercalate ", " (logLevels.map Text.quoted)
      ++ ", or a number 1-5"]⟩

/-- The level of logging is one that there is; to debug, no level is needed. -/
def Globals.checkLevel (g : Globals) : Except Trouble Unit :=
  if g.debug || isLogLevel g.logLevel then .ok () else .error levelTrouble

variable {m : Type → Type} [Monad m]

/-- A command is carried out with the settings that came from a path. -/
def Command.perform (c : Command) (s : Surroundings m) (settings : Settings) (path : String) :
    Attempt m Reply :=
  match c with
  | .hashPassword source stored => hashing s settings path source stored
  | .mintSession user => minting s settings path user
  | .verifySession id => verifying settings path id
  | .check request => checking s settings path request
  | .signature file => signing s file

/-- A request is carried out. -/
def Request.perform (s : Surroundings m) (r : Request) : Attempt m Reply := do
  Attempt.of id r.globals.checkLevel
  let (settings, path) ← s.settings r.globals.config
  r.command.perform s settings path

/-- The whole program, on its arguments. -/
def program (s : Surroundings m) (args : List String) : m Outcome :=
  match Request.parse args with
  | .error halt => pure halt.outcome
  | .ok request => do return Outcome.of request.globals.format (← (request.perform s).run)

end AccessControl.CommandLine
