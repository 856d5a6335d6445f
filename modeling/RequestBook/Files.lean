import RequestBook.Failure
import RequestBook.Text.Pieces

/-!
# Files

The files that a run can see, each at its place, and the paths that lead to places. A path is
followed name by name as it is written, so every name on the way but the last has to be that
of a directory; a file is saved at the place of its path with the directories it needs.
-/

namespace RequestBook

/-- The names that lead from the working directory to a file. `..` stands only in front, and
`/` only in front of all others. -/
abbrev Place := List String

inductive Entry where
  | file (bytes : List UInt8)
  | directory
  deriving DecidableEq, Repr

/-- What is at which place. Directories on the way to an entry need no entries of their own. -/
structure Files where
  entries : List (Place × Entry)

/-- The directory that the root of all paths is. -/
def Place.root : Place := ["/"]

/-- Where a directory is. -/
def Place.parent (p : Place) : Place :=
  if p = root then root
  else if p.all (· = "..") then ".." :: p
  else p.dropLast

/-- The path to a place. -/
def Place.text : Place → String
  | [] => "."
  | "/" :: names => "/" ++ Text.separated "/" names
  | names => Text.separated "/" names

/-! ## Paths -/

/-- The names in a path, as they are separated by slashes. -/
def pathNames (path : String) : List String := (Text.pieces '/' path.toList).map String.ofList

def isRooted (path : String) : Bool := path.startsWith "/"

/-- Where the names of a path start. -/
def pathStart (path : String) : Place := if isRooted path then Place.root else []

/-- The names in a path that lead anywhere. -/
def pathSteps (path : String) : List String := (pathNames path).filter fun n => n ≠ "" ∧ n ≠ "."

/-- The path without empty names and names of the directory itself. Two slashes in front, but
not three, stay apart from one. -/
def normalPath (path : String) : String :=
  let front :=
    if path.startsWith "//" ∧ ¬path.startsWith "///" then "//"
    else if isRooted path then "/"
    else ""
  match front ++ Text.separated "/" (pathSteps path) with
  | "" => "."
  | s => s

/-- The last name in a path. -/
def pathName (path : String) : String := (pathSteps path).getLastD ""

namespace Files

/-- What is at a place. -/
def find? (fs : Files) (p : Place) : Option Entry :=
  match fs.entries.lookup p with
  | some e => some e
  | none =>
    if p.all (· = "..") || p == Place.root || fs.entries.any fun e => p.isPrefixOf e.1 then
      some .directory
    else none

/-- The place that names lead to from a directory. -/
def follow (fs : Files) (start : Place) : List String → Option Place
  | [] => some start
  | name :: rest =>
    match fs.find? start with
    | some .directory =>
      if name = "" ∨ name = "." then fs.follow start rest
      else if name = ".." then fs.follow start.parent rest
      else fs.follow (start ++ [name]) rest
    | _ => none

/-- What a path leads to; a path without any name leads nowhere. -/
def look (fs : Files) (path : String) : Option Entry :=
  if path = "" then none
  else (fs.follow (pathStart path) (pathNames path)).bind fs.find?

/-- What a name in the directory that a path leads to stands for. -/
def lookIn (fs : Files) (directory name : String) : Option Entry :=
  fs.look (directory ++ "/" ++ name)

/-! ## Saving -/

/-- The most bytes that the name of a file may have. -/
def nameLimit : Nat := 255

/-- The most bytes that a path may have. -/
def pathLimit : Nat := 4095

/-- Checks that the system accepts a text as a path at all. -/
def checkText (path : String) : Except Failure Unit :=
  if path.toList.contains '\x00' then .error .nulInPath
  else if path.utf8ByteSize > pathLimit then .error .longName
  else .ok ()

/-- The directory that names lead to, once the directories that are missing have been made. -/
def reach (fs : Files) (start : Place) : List String → Except Failure Place
  | [] => .ok start
  | ".." :: rest => fs.reach start.parent rest
  | name :: rest =>
    if name.utf8ByteSize > nameLimit then .error .longName
    else match fs.find? (start ++ [name]) with
      | some (.file _) => .error (if rest.isEmpty then .fileInTheWay else .belowFile)
      | _ => fs.reach (start ++ [name]) rest

/-- Where a file that is saved under a path in its normal form goes. The directory that it
stands in is reached first. -/
def destination (fs : Files) (path : String) : Except Failure Place := do
  let steps := pathSteps path
  checkText (Text.separated "/" steps.dropLast)
  let directory ← fs.reach (pathStart path) steps.dropLast
  checkText path
  let place := match steps.getLast? with
    | none => directory
    | some ".." => directory.parent
    | some name => directory ++ [name]
  if (place.getLastD "").utf8ByteSize > nameLimit then throw .longName
  match fs.find? place with
  | some .directory => throw .directoryInTheWay
  | _ => return place

end Files

end RequestBook
