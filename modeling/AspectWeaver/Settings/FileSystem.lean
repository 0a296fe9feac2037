/-
**Paths: where they lead in a file system, and why the file at their end cannot be read.**

A path is followed name by name, from the root or from the working directory. A file system says
which directories, links and files lie below the root. The root is above itself, so names that lead
up lead to it from everywhere, if they are many enough.
-/

import AspectWeaver.Settings.Error

namespace AspectWeaver

/-- The names from the root to a place, the last one first. -/
abbrev Names := List String

/-- What lies below the root, and where paths start that do not start there. -/
structure FileSystem where
  directories : List Names
  links : List (Names × Names)
  /-- The files with their contents; there is none if the bytes of a file are no text. -/
  files : List (Names × Option String)
  working : Names

/-- A place that a path can lead to. -/
inductive Place where
  | directory (names : Names)
  | file (content : Option String)
  deriving DecidableEq

namespace FileSystem

/-- The most bytes that a path can have. -/
def pathLimit : Nat := 4095

/-- The most bytes that a name can have. -/
def nameLimit : Nat := 255

/-- What lies at the end of names, behind a link if there is one. -/
def find (system : FileSystem) (names : Names) : Except ReadFault Place :=
  let names := (system.links.lookup names).getD names
  if system.directories.contains names then .ok (.directory names)
  else
    match system.files.lookup names with
    | some content => .ok (.file content)
    | none => .error .missing

/-- The place that a name leads to. -/
def enter (system : FileSystem) : Place → String → Except ReadFault Place
  | .file _, _ => .error .throughFile
  | .directory names, name =>
      if name = "" ∨ name = "." then .ok (.directory names)
      else if name = ".." then .ok (.directory names.tail)
      else if nameLimit < name.utf8ByteSize then .error .tooLong
      else system.find (name :: names)

/-- The place that names lead to, one after the other. -/
def follow (system : FileSystem) : Place → List String → Except ReadFault Place
  | place, [] => .ok place
  | place, name :: rest =>
      match system.enter place name with
      | .ok next => system.follow next rest
      | .error fault => .error fault

/-- The place that a path leads to. -/
def locate (system : FileSystem) (path : String) : Except ReadFault Place :=
  if '\x00' ∈ path.toList then .error .nulInPath
  else if path.isEmpty then .error .missing
  else if pathLimit < path.utf8ByteSize then .error .tooLong
  else
    let start := if path.toList.head? = some '/' then [] else system.working
    system.follow (.directory start) (path.splitOn "/")

/-- The content of the file at a path. -/
def read (system : FileSystem) (path : String) : Except ReadFault String :=
  match system.locate path with
  | .ok (.file (some content)) => .ok content
  | .ok (.file none) => .error .notText
  | .ok (.directory _) => .error .isDirectory
  | .error fault => .error fault

end FileSystem

end AspectWeaver
