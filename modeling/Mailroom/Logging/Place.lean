import Mailroom.Text.Blank
/-! # Places of log files

A path leads through directories to the place of a log file. A file that is there is appended to,
and one that is not is made; only the directories before it have to be there, and the last of them
must take new files.
-/

namespace Mailroom.Logging

open Text

/-- Why a log file cannot be opened. -/
inductive OpenError where
  | notFound
  | notADirectory
  | isDirectory
  | nameTooLong
  | nul
deriving DecidableEq, Repr

def OpenError.message : OpenError → String
  | notFound => "No such file or directory (os error 2)"
  | notADirectory => "Not a directory (os error 20)"
  | isDirectory => "Is a directory (os error 21)"
  | nameTooLong => "File name too long (os error 36)"
  | nul => "file name contained an unexpected NUL byte"

/-- The names that lead to a place from the root. -/
abbrev Place := List String

/-- What there is at a place. -/
inductive Node where
  | file
  | directory
deriving DecidableEq, Repr

/-- The places that are known to be there. -/
structure Surroundings where
  /-- The directory where paths begin that do not begin at the root. -/
  here : Place
  directories : List Place
  files : List Place
  /-- The directories that take no new files. -/
  closed : List Place
deriving Repr

namespace Surroundings

/-- What there is at a place. Whatever a known place is in is a directory. -/
def node? (around : Surroundings) (place : Place) : Option Node :=
  if place ∈ around.files then some .file
  else if (around.here :: around.directories ++ around.files).any place.isPrefixOf then
    some .directory
  else none

/-- Where a name leads from a directory. One dot stays, and two dots go up, except from the root. -/
def go (place : Place) (name : String) : Place :=
  if name = "." then place else if name = ".." then place.dropLast else place ++ [name]

/-- Follows names from directory to directory. -/
def follow (around : Surroundings) : Place → List String → Except OpenError Place
  | place, [] => .ok place
  | place, name :: rest =>
    if 255 < name.utf8ByteSize then .error .nameTooLong
    else
      match around.node? (go place name) with
      | none => .error .notFound
      | some .file => .error .notADirectory
      | some .directory => around.follow (go place name) rest

/-- Opens the file of a name in a directory for appending, and returns its place. -/
def openIn (around : Surroundings) (folder : Place) (name : String) : Except OpenError Place :=
  if name = "." ∨ name = ".." then .error .isDirectory
  else if 255 < name.utf8ByteSize then .error .nameTooLong
  else
    match around.node? (folder ++ [name]) with
    | some .directory => .error .isDirectory
    | some .file => .ok (folder ++ [name])
    | none => if folder ∈ around.closed then .error .notFound else .ok (folder ++ [name])

/-- Opens the file that a path leads to for appending, and returns its place. A path that ends in a
slash is for a directory, whatever is there. -/
def openFile (around : Surroundings) (path : String) : Except OpenError Place :=
  let text := path.toList
  let names := ((pieces '/' text).filter (· ≠ [])).map String.ofList
  let start := if text.head? = some '/' then [] else around.here
  if '\x00' ∈ text then .error .nul
  else if text = [] then .error .notFound
  else if 4095 < path.utf8ByteSize then .error .nameTooLong
  else
    match names.getLast? with
    | none => .error .isDirectory
    | some name =>
      (around.follow start names.dropLast).bind fun folder =>
        if text.getLast? = some '/' then .error .isDirectory else around.openIn folder name

/-- The surroundings with a file at a place. -/
def withFile (around : Surroundings) (place : Place) : Surroundings :=
  { around with files := place :: around.files }

end Surroundings

end Mailroom.Logging
