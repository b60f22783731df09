import LiveSpeech.Files
import LiveSpeech.Text.Pieces
import LiveSpeech.Text.Utf8

/-!
# A directory for rehearsals

A rehearsal reads its files from a directory that is given as a list.  Paths are followed one
name at a time: a name is looked up only in a directory, `.` stays and `..` goes back.  Outside
the directory nothing is known to exist.
-/

namespace LiveSpeech.Rehearsal

set_option autoImplicit false

open LiveSpeech.Text

/-- What a name stands for. -/
inductive Entry where
  | file (content : List UInt8)
  | directory

/-- The entries of a directory by their paths from it. -/
abbrev Directory := List (String × Entry)

/-- The longest name, in bytes. -/
def longestName : Nat := 255

/-- The longest path, in bytes. -/
def longestPath : Nat := 4095

/-- A place: the names that lead to it from the directory, or somewhere outside. -/
inductive Location where
  | inside (names : List (List Char))
  | outside

def namesIn (path : String) : List (List Char) := pieces (· = '/') path.toList

/-- What is at a place.  The way to an entry leads through directories. -/
def Directory.entry? (directory : Directory) : Location → Option Entry
  | .outside => some .directory
  | .inside [] => some .directory
  | .inside names =>
    match directory.find? fun (path, _) => namesIn path = names with
    | some (_, entry) => some entry
    | none =>
      if directory.any fun (path, _) => names.isPrefixOf (namesIn path) then some .directory
      else none

/-- The place that a name leads to. -/
def Directory.follow (directory : Directory) (place : Location) (name : List Char) :
    Except FileFault Location :=
  match directory.entry? place with
  | none => .error .notFound
  | some (.file _) => .error .notDirectory
  | some .directory =>
    if name = [] ∨ name = ['.'] then .ok place
    else if name = ['.', '.'] then
      match place with
      | .inside (first :: others) => .ok (.inside (first :: others).dropLast)
      | _ => .ok .outside
    else if longestName < (encodeUtf8 name).length then .error .nameTooLong
    else
      match place with
      | .outside => .error .notFound
      | .inside names =>
        let next : Location := .inside (names ++ [name])
        if (directory.entry? next).isSome then .ok next else .error .notFound

/-- The content of the file at a path. -/
def Directory.read (directory : Directory) (path : String) : Except FileFault (List UInt8) :=
  if '\x00' ∈ path.toList then .error .nulInName
  else if path.isEmpty then .error .notFound
  else if longestPath < (utf8 path).length then .error .nameTooLong
  else do
    let start : Location := if path.toList.head? = some '/' then .outside else .inside []
    let place ← (namesIn path).foldlM directory.follow start
    match directory.entry? place with
    | some (.file content) => return content
    | some .directory => throw .isDirectory
    | none => throw .notFound

end LiveSpeech.Rehearsal
