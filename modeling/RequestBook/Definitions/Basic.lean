import RequestBook.Definitions.Rules
import RequestBook.Json.Display
import RequestBook.Text.Excerpt

/-!
# Defined schemas

A schema put together from the definitions of a document: every type with its extensions,
every default value read as its type reads it. What cannot be put together has a defect.
-/

namespace RequestBook

/-- A default value as the type it belongs to reads it. -/
inductive Constant where
  | null
  | int (n : Int)
  | float (x : Float)
  | text (s : String)
  | boolean (b : Bool)
  | id (text : String)
  | enum (name : String)
  | list (items : List Constant)
  | object (members : List (String × Constant))
  /-- A value of a scalar type that the document defines; any literal will do. -/
  | custom (value : Json)

/-- An argument, or a field of an input type. -/
structure InputValue where
  name : String
  type : TypeExpr
  defaultValue : Option Constant
  deprecated : Bool
  description : Option String

namespace InputValue

/-- Whether a value has to be given. -/
def isRequired (v : InputValue) : Bool := v.type.isRequired && v.defaultValue.isNone

end InputValue

structure DefinedField where
  name : String
  type : TypeExpr
  arguments : List InputValue
  description : Option String

inductive DefinedBody where
  | scalar
  | object (interfaces : List String) (fields : List DefinedField)
  | interface (interfaces : List String) (fields : List DefinedField)
  | union (members : List String)
  | enum (values : List String)
  | input (fields : List InputValue)

structure DefinedType where
  name : String
  description : Option String
  body : DefinedBody

structure DefinedDirective where
  name : String
  arguments : List InputValue

structure DefinedSchema where
  /-- Every type, each one behind those that are defined before it. -/
  types : List DefinedType
  directives : List DefinedDirective
  query : Option String
  mutation : Option String
  subscription : Option String

namespace DefinedSchema

def find? (s : DefinedSchema) (name : String) : Option DefinedType :=
  s.types.find? (·.name = name)

/-- Whether a name means a type with such a body. -/
def names (s : DefinedSchema) (holds : DefinedBody → Bool) (name : String) : Bool :=
  (s.find? name).any fun t => holds t.body

end DefinedSchema

namespace DefinedBody

def interfaces : DefinedBody → List String
  | object interfaces _ | interface interfaces _ => interfaces
  | _ => []

def outputFields : DefinedBody → List DefinedField
  | object _ fields | interface _ fields => fields
  | _ => []

def inputFields : DefinedBody → List InputValue
  | input fields => fields
  | _ => []

def isObject : DefinedBody → Bool
  | object .. => true
  | _ => false

def isInput : DefinedBody → Bool
  | input _ => true
  | _ => false

end DefinedBody

/-- Why definitions that keep all rules still make no schema. -/
inductive Defect where
  | notOutput
  | notArgument
  | notInputField
  | notInterface (type : String)
  | notMember (type : String)
  /-- A default value belongs to a type that has no values. -/
  | noValues (type : String)
  | invalidArgument (argument : String) (value : Value) (site : Option Nat)
  | nullArgument (argument : String) (type : TypeExpr) (site : Option Nat)
  | absentArgument (argument : String) (type : TypeExpr) (site : Option Nat)
  | fields (type : String) (cause : Defect)
  /-- A default value that contains itself. -/
  | endless

/-- The name of a document in messages. -/
def documentName : String := "GraphQL request"

/-- A message with the excerpt around a site, if there is one. -/
def located (text : List Char) (message : String) (site : Option Nat) : Option String :=
  match site with
  | none => some message
  | some index => (Text.excerpt documentName text index).map fun e => message ++ "\n\n" ++ e

/-- What is said of a defect in the document with that text; `none` where its place cannot be
shown. -/
def Defect.message (text : List Char) : Defect → Option String
  | notOutput => some "Field type must be an output type."
  | notArgument => some "Argument type must be a GraphQL input type."
  | notInputField => some "Input field type must be a GraphQL input type."
  | notInterface type =>
    some (type ++
      " interfaces must be specified as a collection of GraphQLInterfaceType instances.")
  | notMember type =>
    some (type ++ " types must be specified as a collection of GraphQLObjectType instances.")
  | noValues type => some ("Unexpected input type: " ++ type ++ ".")
  | invalidArgument argument value site =>
    located text ("Argument '" ++ argument ++ "' has invalid value " ++ value.print ++ ".") site
  | nullArgument argument type site =>
    located text
      ("Argument '" ++ argument ++ "' of non-null type '" ++ type.print ++ "' must not be null.")
      site
  | absentArgument argument type site =>
    located text
      ("Argument '" ++ argument ++ "' of required type '" ++ type.print ++ "' was not provided.")
      site
  | fields type cause =>
    (cause.message text).map fun m => type ++ " fields cannot be resolved. " ++ m
  | endless => some "maximum recursion depth exceeded"

end RequestBook
