import RequestBook.Definitions.Describing
import RequestBook.Json.Parser
import RequestBook.Text.Encoding

/-!
# Schema files

A file holds a schema as definitions or as a saved introspection result; its name says which.
-/

namespace RequestBook

/-- The ending of a file name: its last point and what follows, with something on both sides. -/
def fileSuffix (name : String) : String :=
  let reversed := name.toList.reverse
  let ending := reversed.takeWhile (· ≠ '.')
  if ending.isEmpty ∨ ending.length + 1 ≥ reversed.length then ""
  else String.ofList ('.' :: ending.reverse)

/-- The endings of files that hold definitions. -/
def definitionSuffixes : List String := [".graphql", ".graphqls", ".gql"]

def holdsDefinitions (name : String) : Bool := definitionSuffixes.contains (fileSuffix name).toLower

/-- The text of a file, with LF at the end of its lines. -/
def fileText (bytes : List UInt8) : Except Failure String :=
  match Text.Encoding.utf8.decode bytes with
  | some s => .ok (String.ofList (Text.normalizeBreaks s.toList))
  | none => .error .undecodable

namespace Schema

def ofDump (file text : String) : Except Failure Schema :=
  match Json.parse text with
  | .ok result => ofJson result
  | .error ⟨.hugeNumber digits, _⟩ => .error (.hugeNumber digits)
  | .error fault => .error (.integrity (.invalidJson file (fault.describe text)))

/-- The schema in a file of that name. -/
def ofFile (name : String) (bytes : List UInt8) : Except Failure Schema := do
  let text ← fileText bytes
  if holdsDefinitions name then ofDefinitions name text else ofDump name text

end Schema

end RequestBook
