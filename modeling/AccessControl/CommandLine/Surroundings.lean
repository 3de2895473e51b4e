/-
  AccessControl/CommandLine/Surroundings.lean
  ===========================================
  **What a program finds when it is started, and its settings.**

  Besides its arguments a program has an environment, files, a standard input, clocks,
  and a supply of new ids.  Files, the standard input and the clocks are read in a monad
  of the caller's choice, so that the same program runs on real ones and on given ones.

  Settings are read from the file that the arguments name; if they name none, from the
  one in the working folder, if it exists, or else from the one in the user's folder of
  settings.  A file that does not exist stands for settings that are all left out.  The
  environment is applied in the end.

  ## Main definitions

  * `Surroundings`: what a program finds;
  * `Attempt`: something that may end the program;
  * `settingsPath`, `settingsIn`, `Surroundings.settings`: its settings, and where they
    came from;
  * `isLogLevel`: the levels of logging.
-/
import AccessControl.CommandLine.Folder
import AccessControl.CommandLine.Report
import AccessControl.Identity.Basic
import AccessControl.Identity.Timestamp
import AccessControl.Settings.Wire
import AccessControl.Text.White

namespace AccessControl.CommandLine

/-! ## 1. Surroundings -/

/-- What a program finds when it is started. -/
structure Surroundings (m : Type → Type) where
  environment : Environment
  configFolder : Option String
  read : String → m FileEntry
  input : m (List UInt8)
  now : m Moment
  nonce : UInt64
  ids : Nat → ObjectId

/-- The user's folder of settings: the one that is named, if it is named from the root, or
    else the usual one in the user's home. -/
def configFolder (named home : Option String) : Option String :=
  match named.filter fun path => path.toList.head? == some '/' with
  | some path => some path
  | none => (home.filter fun path => !path.isEmpty).map fun path => Folder.join path ".config"

/-- Something that may end the program. -/
abbrev Attempt (m : Type → Type) (α : Type) := ExceptT Trouble m α

def Attempt.of {m : Type → Type} [Monad m] {ε α : Type} (trouble : ε → Trouble)
    (r : Except ε α) : Attempt m α := ExceptT.mk (pure (r.mapError trouble))

/-! ## 2. Settings -/

def localSettings : String := "config/safeharbor.yaml"

def userSettings (folder : String) : String := Folder.join folder "safeharbor/config.yaml"

namespace Surroundings

variable {m : Type → Type} [Monad m]

/-- Where the settings are. -/
def settingsPath (s : Surroundings m) (config : Option String) : Attempt m String := do
  match config with
  | some path => return path
  | none =>
    if (← s.read localSettings).exists? then return localSettings
    match s.configFolder with
    | some folder => return userSettings folder
    | none => throw (Trouble.plain "Failed to get config directory")

/-- The settings that a file holds. -/
def settingsIn (entry : FileEntry) : Except Trouble Settings :=
  if entry.exists? then do
    let text ← entry.text.mapError fun reason => ⟨"Failed to read config file", [reason]⟩
    match Settings.ofYaml? text with
    | some settings => return settings
    | none => throw ⟨"Failed to parse config file", ["no settings in YAML"]⟩
  else return Settings.default

/-- The settings under the environment, and where they came from. -/
def settings (s : Surroundings m) (config : Option String) : Attempt m (Settings × String) := do
  let path ← s.settingsPath config
  let settings ← Attempt.of id (settingsIn (← s.read path))
  return (settings.overridden s.environment, path)

end Surroundings

/-! ## 3. Levels of logging -/

def logLevels : List String := ["error", "warn", "info", "debug", "trace"]

def levelNumber? (cs : List Char) : Option Nat :=
  let digits := match cs with
    | '+' :: rest => rest
    | cs => cs
  (Text.inRadix? 10 digits).filter fun n => decide (n < UInt64.size)

/-- A level has a name, in any case of letters, or a number from one on. -/
def isLogLevel (text : String) : Bool :=
  match levelNumber? text.toList with
  | some n => decide (1 ≤ n ∧ n ≤ logLevels.length)
  | none => logLevels.any fun name => Text.sameIgnoringCase name.toList text.toList

end AccessControl.CommandLine
