/-
  AccessControl/CommandLine/Folder.lean
  =====================================
  **Files, and what is found under a path.**

  A path leads step by step from a folder to a file or to another folder.  Where a step
  leads nowhere, goes on behind a file, or has too long a name, there is nothing to read.
  Outside the folder only what every system has is found: the folders at the root, and
  the device that is always empty.  A path that starts with a slash leads from the root,
  any other one from the folder.  What is read as a text has to be UTF-8.

  ## Main definitions

  * `FileEntry`: what is found, and why it cannot be read;
  * `FileEntry.text`: the text of a file;
  * `Folder.ofFiles`: a folder with given files; `Folder.find`: what is found under a path;
  * `Folder.join`: the path of a name in a folder.
-/
import AccessControl.Digest.Signature
import AccessControl.Text.Split

namespace AccessControl.CommandLine

/-! ## 1. What is found -/

/-- What is found under a path. -/
inductive FileEntry where
  | file (bytes : List UInt8)
  | folder
  | nothing
  | unreachable (reason : String)
  | unreadable (reason : String)
deriving DecidableEq, Repr

namespace FileEntry

def behindFile : FileEntry := .unreachable "Not a directory (os error 20)"

def tooLong : FileEntry := .unreachable "File name too long (os error 36)"

def cutShort : FileEntry := .unreachable "file name contained an unexpected NUL byte"

def exists? : FileEntry → Bool
  | .file _ | .folder | .unreadable _ => true
  | .nothing | .unreachable _ => false

def opened : FileEntry → Except String (List Digest.Reading)
  | .file bytes => .ok [.chunk bytes]
  | .folder => .ok [.failed "Is a directory (os error 21)"]
  | .nothing => .error "No such file or directory (os error 2)"
  | .unreachable reason | .unreadable reason => .error reason

def content (e : FileEntry) : Except String (List UInt8) := e.opened >>= Digest.content

def decodeText? (bytes : List UInt8) : Option String := String.fromUTF8? ⟨bytes.toArray⟩

def notText : String := "stream did not contain valid UTF-8"

def text (e : FileEntry) : Except String String := do
  match decodeText? (← e.content) with
  | some text => return text
  | none => throw notText

end FileEntry

/-! ## 2. Folders -/

/-- A folder, and the files and other folders that can be reached from it.  All of them
    have places, each a row of names from the root. -/
structure Folder where
  place : List String
  files : List (List String × List UInt8)
  folders : List (List String)
deriving DecidableEq, Repr

namespace Folder

/-- The path of a name in a folder: a slash stands between the two, unless the folder has
    one at its end. -/
def join (folder name : String) : String :=
  match folder.toList.getLast? with
  | some '/' | none => folder ++ name
  | some _ => folder ++ "/" ++ name

/-- The steps of a path; a step without a name stays where it is. -/
def steps (path : String) : List String :=
  (Text.pieces '/' path.toList).map fun p => if p.isEmpty then "." else String.ofList p

def start (place : List String) (path : String) : List String :=
  if path.toList.head? = some '/' then [] else place

/-- Where a step leads from a place; from the root there is no way up. -/
def next (place : List String) : (step : String) → List String
  | "." => place
  | ".." => place.dropLast
  | name => place ++ [name]

def follow (place : List String) (path : String) : List String :=
  (steps path).foldl next (start place path)

def passed (place : List String) (path : String) : List (List String) :=
  (List.range (steps path).length).map fun n =>
    ((steps path).take n).foldl next (start place path)

/-- What all systems have: the usual folders, and the device that is always empty. -/
def usualFolders : List (List String) :=
  ["bin", "boot", "dev", "etc", "home", "lib", "media", "mnt", "opt", "proc", "root", "run",
    "sbin", "srv", "sys", "tmp", "usr", "var"].map fun name => [name]

/-- The folder at a path with some files, which are given by their paths from it.  Of two
    files with one place the last counts, and folders on the way to a file are there. -/
def ofFiles (path : String) (files : List (String × List UInt8)) : Folder :=
  let place := follow [] path
  { place
    files := files.reverse.map (fun f => (follow place f.1, f.2)) ++ [(["dev", "null"], [])]
    folders := place :: usualFolders ++ files.flatMap fun f => passed place f.1 }

/-- There is a folder at a place: it is known, or something is under it. -/
def isFolder (d : Folder) (place : List String) : Bool :=
  d.folders.any place.isPrefixOf || d.files.any fun f => place.isPrefixOf f.1

def isLongName (name : String) : Bool := 255 < name.utf8ByteSize

def walk (d : Folder) (place : List String) : List String → FileEntry
  | [] => .folder
  | "." :: rest => walk d place rest
  | ".." :: rest => walk d place.dropLast rest
  | name :: rest =>
    let place := place ++ [name]
    if isLongName name then .tooLong
    else match d.files.lookup place with
    | some bytes => if rest.isEmpty then .file bytes else .behindFile
    | none => if d.isFolder place then walk d place rest else .nothing

def find (d : Folder) (path : String) : FileEntry :=
  if path.isEmpty then .nothing
  else if '\x00' ∈ path.toList then .cutShort
  else if 4096 ≤ path.utf8ByteSize then .tooLong
  else walk d (start d.place path) (steps path)

end Folder

end AccessControl.CommandLine
