import ScriptGraph.Command.Action
import ScriptGraph.Table

/-! # Directories

A directory of text files, and what performing an action in it leads to. Folders are there as far as
files lie in them. A path is followed name by name, so it can leave the directory and come back, and
every name but the last must lead to a folder.
-/

namespace ScriptGraph.Command

/-- Where a path leads: the names on the way from the directory. A place outside begins with `/` or
with as many `..` as it takes to leave the directory. -/
abbrev Place := List String

namespace Place

/-- The place that holds all others. -/
def root : Place := ["/"]

/-- The folder that a folder lies in. -/
def parent (place : Place) : Place :=
  if place = root then root
  else if place.all (· = "..") then ".." :: place
  else place.dropLast

/-- Folders that are there, whatever the directory holds: itself, those above it, and the usual ones
of a system. -/
def isGivenFolder (place : Place) : Bool :=
  place.all (· = "..") ||
    match place with
    | [] => true
    | first :: rest =>
      first = "/" &&
        [[], ["bin"], ["dev"], ["etc"], ["home"], ["lib"], ["opt"], ["proc"], ["root"], ["run"],
          ["sbin"], ["sys"], ["tmp"], ["usr"], ["var"]].contains rest

/-- The file that is always empty. -/
def sink : Place := ["/", "dev", "null"]

end Place

/-- How many bytes a name may have. -/
def nameLimit : Nat := 255

/-- How many bytes a path may have. -/
def pathLimit : Nat := 4095

/-- Files by the places that they lie at. -/
structure Directory where
  files : Table Place String := {}

namespace Directory

/-- The place that names lead to without any check. -/
def placeOf (names : List String) : Place :=
  names.filter fun name => name ≠ "" ∧ name ≠ "."

def ofList (files : List (String × String)) : Directory :=
  ⟨files.foldl (fun t (path, content) => t.insert (placeOf (path.splitOn "/")) content) {}⟩

/-- Whether a folder lies at a place. -/
def hasFolder (d : Directory) (place : Place) : Bool :=
  place.isGivenFolder || d.files.keys.any fun file => place.isPrefixOf file && place ≠ file

/-- The content of the file at a place. -/
def content? (d : Directory) (place : Place) : Option String :=
  if place = Place.sink then some "" else d.files.get? place

/-- Follows names from a place. The empty name and `.` stay where they are, which must be a folder
like any other place that the way goes on from. -/
def follow (d : Directory) (place : Place) : List String → Except String Place
  | [] => .ok place
  | name :: rest =>
    if !d.hasFolder place then
      .error (if (d.content? place).isSome then notFolder else noSuchFile)
    else if name = "" ∨ name = "." then d.follow place rest
    else if name = ".." then d.follow place.parent rest
    else if nameLimit < name.utf8ByteSize then .error nameTooLong
    else d.follow (place ++ [name]) rest

/-- The place where a path begins, and the names that it goes through. -/
def departure (path : String) : Except String (Place × List String) :=
  if path.isEmpty then .error noSuchFile
  else if pathLimit < path.utf8ByteSize then .error nameTooLong
  else match path.splitOn "/" with
    | "" :: names => .ok (Place.root, names)
    | names => .ok ([], names)

/-- The content of the file at a path, or the reason why there is none. -/
def read (d : Directory) (path : String) : Except String String := do
  let (start, names) ← departure path
  let place ← d.follow start names
  match d.content? place with
  | some content => return content
  | none => throw (if d.hasFolder place then isFolder else noSuchFile)

/-- Puts a content at a path, in a folder that is there. A path that ends in a slash asks for a
folder, so nothing can be put there. -/
def write (d : Directory) (path content : String) : Except String Directory := do
  let (start, names) ← departure path
  let last := (names.reverse.dropWhile (· = "")).reverse
  let folder ← d.follow start (last.dropLast ++ [""])
  if last.length < names.length then throw isFolder
  let place ← d.follow folder (last.drop (last.length - 1))
  if d.hasFolder place then throw isFolder
  else if place = Place.sink then return d
  else return ⟨d.files.insert place content⟩

end Directory

/-- What came of an action. -/
structure Outcome where
  output : String := ""
  errors : String := ""
  exitCode : UInt32 := 0
  directory : Directory

/-- Performs an action in a directory. The clock stands still, and the random word is zero. -/
def Action.performIn (d : Directory) (output errors : String) : Action → Outcome
  | .read path next => (next (d.read path)).performIn d output errors
  | .write path content next =>
    match d.write path content with
    | .ok d => (next (.ok ())).performIn d output errors
    | .error reason => (next (.error reason)).performIn d output errors
  | .print .output text next => next.performIn d (output ++ text) errors
  | .print .errors text next => next.performIn d output (errors ++ text)
  | .pause _ next => next.performIn d output errors
  | .clock next => (next 0).performIn d output errors
  | .entropy next => (next 0).performIn d output errors
  | .exit exitCode => { output, errors, exitCode, directory := d }

/-- What calling the program in a directory leads to. -/
def Action.outcome (d : Directory) (a : Action) : Outcome :=
  a.performIn d "" ""

end ScriptGraph.Command
