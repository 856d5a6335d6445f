import RequestBook.Definitions.Building
import RequestBook.Definitions.Conformance
import RequestBook.Document.Parser
import RequestBook.Introspection.Query
import RequestBook.Schema.Introspection
import RequestBook.Text.Pieces

/-!
# Describing schemas

The definitions in a text, and the schema that is read from what a server with those definitions
would send. A server describes wrapped types to a fixed depth only, and default values by their
literals.
-/

namespace RequestBook

/-- Why the definitions in a text make no schema. -/
inductive DefinitionFault where
  | notDocument (error : SyntaxError)
  | breaches (breaches : List Breach)
  | defect (defect : Defect)
  | violations (violations : List Violation)
  | unwritable (value : UnwritableValue)

namespace DefinitionFault

/-- What is said of a fault of a text, or the failure to say it. A default value without a
literal is found by the query, and its place is there. -/
def message (text : List Char) : DefinitionFault → Except Failure String
  | notDocument ⟨.lexical .cutEscape, _⟩ => .error .cutEscape
  | notDocument error => placed (located text error.message error.start)
  | breaches bs =>
    ((bs.mapM Breach.message).map (Text.separated "\n\n")).mapError .hugeNumber
  | defect d => placed (d.message text)
  | violations vs => .ok (Text.separated "\n\n" (vs.map Violation.message))
  | unwritable value =>
    let query := (Introspection.query true).toList
    let site := (Text.cutAt Introspection.defaultValueField.toList query).map (·.1.length)
    placed (located query value.message site)
where
  /-- A message with the place of its fault, if that can be shown. -/
  placed : Option String → Except Failure String
    | some message => .ok message
    | none => .error .unplaceable

end DefinitionFault

namespace DefinedSchema

/-- The default values in the order in which the query meets them. -/
def defaultValues (s : DefinedSchema) : List Constant :=
  let ofType (t : DefinedType) :=
    t.body.outputFields.flatMap (·.arguments) ++ t.body.inputFields
  (s.types.flatMap ofType ++ s.directives.flatMap (·.arguments)).filterMap (·.defaultValue)

end DefinedSchema

namespace Document

/-- The schema that a document defines, checked throughout. -/
def definedSchema (doc : Document) : Except DefinitionFault DefinedSchema := do
  unless doc.breaches.isEmpty do throw (.breaches doc.breaches)
  let schema ← doc.build.mapError .defect
  unless schema.violations.isEmpty do throw (.violations schema.violations)
  schema.defaultValues.forM fun c => do
    let _ ← c.write.mapError .unwritable
  return schema

end Document

namespace DefinedSchema

/-- The schema that the definitions in a text make. -/
def ofText (text : String) : Except DefinitionFault DefinedSchema := do
  let doc ← (Document.parsePlaced text).mapError .notDocument
  doc.definedSchema

end DefinedSchema

/-! ## The description

The answer to the introspection query. Members that are asked for but never read again are left
out. -/

def describedText (s : Option String) : Json := (s.map Json.str).getD .null

def InputValue.defaultText (v : InputValue) : Json :=
  match v.defaultValue.map Constant.write with
  | some (.ok value) => .str value.print
  | _ => .null

def DefinedBody.kind : DefinedBody → Kind
  | scalar => .scalar
  | object .. => .object
  | interface .. => .interface
  | union _ => .union
  | enum _ => .enum
  | input _ => .inputObject

namespace TypeExpr

def ownName : TypeExpr → Json
  | named name => .str name
  | list _ | nonNull _ => .null

/-- What a wrapper is of. -/
def inner? : TypeExpr → Option TypeExpr
  | named _ => none
  | list item | nonNull item => some item

end TypeExpr

namespace DefinedSchema

variable (s : DefinedSchema)

def kindOf : TypeExpr → Kind
  | .named name => ((s.find? name).map (·.body.kind)).getD .scalar
  | .list _ => .list
  | .nonNull _ => .nonNull

/-- A reference to a type. At the last level, it is not asked what a wrapper is of. -/
def reference : (depth : Nat) → TypeExpr → Json
  | 0, type => .obj [("kind", .str (s.kindOf type).spelling), ("name", type.ownName)]
  | depth + 1, type => .obj [("kind", .str (s.kindOf type).spelling), ("name", type.ownName),
      ("ofType", (type.inner?.map (reference depth)).getD .null)]

def describedInput (v : InputValue) : Json :=
  .obj [("name", .str v.name), ("description", describedText v.description),
    ("type", s.reference Introspection.referenceDepth v.type), ("defaultValue", v.defaultText)]

def describedField (f : DefinedField) : Json :=
  .obj [("name", .str f.name), ("description", describedText f.description),
    ("args", .arr (f.arguments.map s.describedInput)),
    ("type", s.reference Introspection.referenceDepth f.type)]

def describedFields : DefinedBody → Json
  | .object _ fields | .interface _ fields => .arr (fields.map s.describedField)
  | _ => .null

def describedInputs : DefinedBody → Json
  | .input fields => .arr (fields.map s.describedInput)
  | _ => .null

def describedType (t : DefinedType) : Json :=
  .obj [("kind", .str t.body.kind.spelling), ("name", .str t.name),
    ("description", describedText t.description), ("fields", s.describedFields t.body),
    ("inputFields", s.describedInputs t.body)]

def describe : Json :=
  .obj [("__schema", .obj [("types", .arr (s.types.map s.describedType))])]

end DefinedSchema

/-- A fault of the definitions in a file. -/
def DefinitionFault.failure (file : String) (text : List Char) (f : DefinitionFault) : Failure :=
  match f.message text with
  | .ok detail => .integrity (.invalidDefinitions file detail)
  | .error failure => failure

/-- The schema that the text of a file defines, read from its description. -/
def Schema.ofDefinitions (file text : String) : Except Failure Schema := do
  let schema ← (DefinedSchema.ofText text).mapError (DefinitionFault.failure file text.toList)
  Schema.ofJson schema.describe

end RequestBook
