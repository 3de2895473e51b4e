/-
  AccessControl/Failure/Inspection.lean
  =====================================
  **Failures written out in full.**

  Where a failure ends a program, everything that it holds is written on one line:
  each part under its name, texts in quotes with hidden characters escaped, and each
  detail with the kind of its value.

  ## Main definitions

  * `Json.inspectedChars`, `Details.inspected`: details, with the kinds of their values;
  * `Failure.inspected`: a failure.
-/
import AccessControl.Failure.Basic
import AccessControl.Json.Printer
import AccessControl.Text.Quoted

namespace AccessControl

open Text

/-! ## 1. Details -/

namespace Json

def inspectedScalar : JsonScalar → List Char
  | .null => "Null".toList
  | .bool b => "Bool(".toList ++ scalarText (.bool b) ++ [')']
  | .int n => "Number(".toList ++ intText n ++ [')']
  | .float bits => "Number(".toList ++ floatText bits ++ [')']
  | .text s => "String(".toList ++ (quoted s).toList ++ [')']

mutual

def inspectedChars : Json → List Char
  | .scalar s => inspectedScalar s
  | .list js => "Array ".toList ++ inspectedItems true js
  | .table es => "Object ".toList ++ inspectedEntries true es
termination_by structural j => j

def inspectedItems (first : Bool) : List Json → List Char
  | [] => if first then ['[', ']'] else [']']
  | j :: js => (if first then ['['] else [',', ' ']) ++ inspectedChars j ++ inspectedItems false js
termination_by structural js => js

def inspectedEntries (first : Bool) : List (String × Json) → List Char
  | [] => if first then ['\x7b', '\x7d'] else ['\x7d']
  | (k, v) :: rest =>
    (if first then ['\x7b'] else [',', ' ']) ++ (quoted k).toList ++ ':' :: ' ' :: inspectedChars v
      ++ inspectedEntries false rest
termination_by structural es => es

end

end Json

/-- The details of a failure, by name. -/
def Details.inspected (d : Details) : String := String.ofList (Json.inspectedEntries true d.entries)

/-! ## 2. Failures -/

def inspectedRecord (name : String) (parts : List (String × String)) : String :=
  let inner := parts.map fun p => p.1 ++ ": " ++ p.2
  name ++ " \x7b " ++ String.intercalate ", " inner ++ " \x7d"

def inspectedOption (text : Option String) : String :=
  match text with
  | some t => "Some(" ++ quoted t ++ ")"
  | none => "None"

/-- A link in the chain of lower failures. -/
def Cause.inspected (c : Cause) : String :=
  inspectedRecord "CauseEntry" [("code", quoted c.code), ("summary", quoted c.summary)]

/-- A failure with everything that it holds. -/
def Failure.inspected (f : Failure) : String :=
  inspectedRecord "ErrorObj"
    [("code", "ErrorCode(" ++ quoted f.code ++ ")"),
     ("kind", f.kind.name),
     ("message_user", quoted f.userMessage),
     ("message_dev", inspectedOption f.devMessage),
     ("http_status", String.ofList (digits f.status.toNat)),
     ("retryable", f.retry.name),
     ("severity", f.severity.name),
     ("meta", f.details.inspected),
     ("causes", "[" ++ String.intercalate ", " (f.causes.map Cause.inspected) ++ "]"),
     ("correlation_id", inspectedOption f.correlation)]

end AccessControl
