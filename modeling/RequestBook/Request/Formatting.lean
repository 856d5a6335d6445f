import RequestBook.Failure
import RequestBook.Schema.Basic
import RequestBook.Text.Lines

/-!
# Formatting arguments and fields

The texts that a request is composed of. An argument appears as a variable declaration,
as a call argument and as a line of the variables; a field of the returned type appears
as a line of the selection, behind a comment sign unless it is a leaf.
-/

namespace RequestBook

/-- A value that can be remembered under: anything but a list or an object. -/
def Json.isKey : Json → Bool
  | .arr _ | .obj _ => false
  | _ => true

structure FormattedArgument where
  type : Json
  entry : String
  placeholder : String
  deriving Repr

/-- A required variable is left as `#`, so that the request fails until it is filled in. -/
def TypeRef.placeholder (t : TypeRef) : String :=
  if t.kind = .nonNull then "#" else "null"

def Argument.formatted (a : Argument) : FormattedArgument :=
  ⟨a.type.signatureValue, "\"" ++ a.name.plain ++ "\": " ++ a.type.placeholder, a.type.placeholder⟩

def Argument.format (a : Argument) : Except Failure FormattedArgument :=
  if a.name.isKey then .ok a.formatted else .error (.shape (@.notKey a.name.typeName))

/-- A description behind a comment sign, on one line; `undefined` counts as none. -/
def descriptionSuffix (description : Json) : Except Failure String :=
  if !description.truthy then .ok "\n"
  else match description with
    | .str "undefined" => .ok "\n"
    | .str s => .ok (" # " ++ String.ofList (Text.onOneLine s.toList) ++ "\n")
    | _ => .error (.shape (@.notText description.typeName))

/-- The line of a field in a selection. Leaves are selected. Objects are left out, so that a
selection stays one level deep, and every other kind is left out with a note of it. -/
def fieldLine (name suffix : String) (kind : Kind) : String :=
  match kind with
  | .scalar | .enum => "\t\t" ++ name ++ suffix
  | .object => "\t\t# " ++ name ++ suffix
  | k => "\t\t# " ++ name ++ suffix ++ " # Type: " ++ k.spelling ++ "\n"

def Field.format (f : Field) : Except Failure String := do
  let suffix ← descriptionSuffix f.description
  if f.name.isKey then return fieldLine f.name.plain suffix f.type.leafKind
  else .error (.shape (@.notKey f.name.typeName))

/-- The three texts that the arguments of a field make. -/
structure ArgumentTexts where
  declarations : String
  call : String
  entries : String
  deriving DecidableEq, Repr

/-- The most arguments that stand on one line. -/
def inlineArgumentLimit : Nat := 3

/-- The texts of arguments that have been formatted: each on a line of its own once there are
too many for one line. -/
def ArgumentTexts.ofFormatted (formatted : List (Argument × FormattedArgument)) : ArgumentTexts :=
  let long := formatted.length > inlineArgumentLimit
  let before := if long then "\n\t" else " "
  let beforeCall := if long then "\n\t\t" else " "
  let declarations := formatted.map fun (a, g) =>
    before ++ "$" ++ a.name.plain ++ ": " ++ g.type.plain
  let calls := formatted.map fun (a, _) =>
    beforeCall ++ a.name.plain ++ ": $" ++ a.name.plain
  let entries := formatted.map fun (_, g) => "\t" ++ g.entry
  ⟨Text.separated "," declarations ++ (if long then "\n" else ""),
    Text.separated ", " calls ++ (if long then "\n\t" else ""),
    Text.separated ",\n" entries⟩

/-- Whether the line only comments. -/
def isCommentLine (line : String) : Bool :=
  (line.toList.dropWhile (· == '\t')).head? == some '#'

/-- The lines of a selection put together. Where every line only comments, the type's name is
selected besides. -/
def selectionText (lines : List String) : String :=
  String.join (if lines.all isCommentLine then lines ++ ["\t\t__typename\n"] else lines)

/-! ## Formatters -/

/-- What formats arguments and fields. It may keep account of what it has formatted. -/
structure Formatter (m : Type → Type) where
  argument : Argument → m FormattedArgument
  field : Field → m String

namespace Formatter

variable {m : Type → Type} [Monad m]

/-- The first argument that cannot be formatted decides. -/
def argumentTexts (F : Formatter m) (f : Field) : m ArgumentTexts := do
  let formatted ← f.arguments.mapM fun a => return (a, ← F.argument a)
  return .ofFormatted formatted

/-- The selection of a returned type: one line per field of an object type and nothing for
any other. -/
def selection (F : Formatter m) (t : SchemaType) : m String :=
  if t.kind = .object ∧ !t.fields.isEmpty then do
    return selectionText (← t.fields.mapM F.field)
  else return ""

/-- Formats and keeps no account. -/
def plain : Formatter (Except Failure) := ⟨Argument.format, Field.format⟩

end Formatter

end RequestBook
