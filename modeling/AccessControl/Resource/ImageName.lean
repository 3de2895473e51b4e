/-
  AccessControl/Resource/ImageName.lean
  =====================================
  **Names of container images.**

  The name of a repository of images is made of words of small letters and digits
  with one period, underscore or hyphen between each and the next.  A stored image
  may not have periods in its name, which separate namespaces.  The local engine
  names images more freely: letters, digits, hyphens and underscores, with at most
  one colon in front of a tag.

  ## Main definitions

  * `ImageName.conforms`: the rule of repository names;
  * `ImageName.Fault`, `ImageName.checkRepository`, `ImageName.check`: what is wrong
    with a name, under the rule alone and for a stored image;
  * `ImageName.isLocal`: the rule of the local engine.
-/
import AccessControl.Text.Split

namespace AccessControl.ImageName

/-! ## 1. The rule of repository names -/

def isWordChar (c : Char) : Bool := ('a' ≤ c && c ≤ 'z') || ('0' ≤ c && c ≤ '9')

def isSeparator (c : Char) : Bool := c == '.' || c == '_' || c == '-'

mutual

def startsWord : List Char → Bool
  | [] => false
  | c :: cs => isWordChar c && continuesWord cs
termination_by structural cs => cs

/-- What may follow a character of a word: the end, more of the word, or a separator
    and the next word. -/
def continuesWord : List Char → Bool
  | [] => true
  | c :: cs => if isWordChar c then continuesWord cs else isSeparator c && startsWord cs
termination_by structural cs => cs

end

/-- The name is made of words with a separator between each and the next. -/
def conforms (name : String) : Bool := startsWord name.toList

/-! ## 2. Faults of a name -/

/-- What is wrong with the name of an image. -/
inductive Fault where
  | malformed (name : String)
  | period (name : String)
deriving DecidableEq, Repr

def Fault.message : Fault → String
  | .malformed name =>
    s!"Image name '{name}' does not conform to docker image name rules: "
      ++ "[a-z0-9]+(?:[._-][a-z0-9]+)*"
  | .period name => s!"periods are not allowed in image names: {name}"

/-- The name keeps the rule of repository names. -/
def checkRepository (name : String) : Except Fault Unit :=
  if conforms name then .ok () else .error (.malformed name)

/-- The name can be that of a stored image. -/
def check (name : String) : Except Fault Unit :=
  if conforms name then
    if '.' ∈ name.toList then .error (.period name) else .ok ()
  else .error (.malformed name)

/-! ## 3. Local names -/

def isLocalChar (c : Char) : Bool :=
  ('a' ≤ c && c ≤ 'z') || ('A' ≤ c && c ≤ 'Z') || ('0' ≤ c && c ≤ '9') || c == '-' || c == '_'

/-- The name can be that of an image of the local engine: a name, and at most one tag
    behind a colon. -/
def isLocal (name : String) : Bool :=
  let parts := Text.pieces ':' name.toList
  parts.length ≤ 2 && parts.all fun p => p.all isLocalChar

end AccessControl.ImageName
