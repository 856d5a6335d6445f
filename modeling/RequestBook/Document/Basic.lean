/-!
# Documents

The request language as trees: operations and fragments, and the definitions and
extensions of a schema. A tree says what a text means and nothing about its layout,
except that a string keeps the quotes it was written with and that, when a document is
read with places, directives and the values of arguments remember where they stand.
-/

namespace RequestBook

inductive OperationKind where
  | query | mutation | subscription
  deriving DecidableEq, Repr

namespace OperationKind

def keyword : OperationKind → String
  | query => "query"
  | mutation => "mutation"
  | subscription => "subscription"

def ofKeyword? : String → Option OperationKind
  | "query" => some query
  | "mutation" => some mutation
  | "subscription" => some subscription
  | _ => none

end OperationKind

/-- A string literal: its text, and whether it is written between triple quotes. -/
structure StringLiteral where
  text : String
  block : Bool
  deriving DecidableEq, Repr

/-- Numbers keep the digits they are written with. -/
inductive Value where
  | variable (name : String)
  | int (digits : String)
  | float (digits : String)
  | string (literal : StringLiteral)
  | boolean (value : Bool)
  | null
  | enum (name : String)
  | list (items : List Value)
  | object (members : List (String × Value))
  deriving Repr

inductive TypeExpr where
  | named (name : String)
  | list (item : TypeExpr)
  | nonNull (item : TypeExpr)
  deriving DecidableEq, Repr

def TypeExpr.leaf : TypeExpr → String
  | .named name => name
  | .list item | .nonNull item => item.leaf

/-- `site` is the place of the value in a document read with places. -/
structure ValueArgument where
  name : String
  value : Value
  site : Option Nat
  deriving Repr

/-- `site` is the place of the directive in a document read with places. -/
structure Directive where
  name : String
  arguments : List ValueArgument
  site : Option Nat
  deriving Repr

structure VariableDefinition where
  name : String
  type : TypeExpr
  defaultValue : Option Value
  directives : List Directive
  deriving Repr

inductive Selection where
  | field (label : Option String) (name : String) (arguments : List ValueArgument)
      (directives : List Directive) (selections : List Selection)
  | spread (name : String) (directives : List Directive)
  | inline (typeName : Option String) (directives : List Directive) (selections : List Selection)
  deriving Repr

structure InputDefinition where
  description : Option StringLiteral
  name : String
  type : TypeExpr
  defaultValue : Option Value
  directives : List Directive
  deriving Repr

structure FieldDefinition where
  description : Option StringLiteral
  name : String
  arguments : List InputDefinition
  type : TypeExpr
  directives : List Directive
  deriving Repr

structure EnumValueDefinition where
  description : Option StringLiteral
  name : String
  directives : List Directive
  deriving Repr

/-- What a type definition holds besides its name and directives. -/
inductive TypeBody where
  | scalar
  | object (interfaces : List String) (fields : List FieldDefinition)
  | interface (interfaces : List String) (fields : List FieldDefinition)
  | union (members : List String)
  | enum (values : List EnumValueDefinition)
  | input (fields : List InputDefinition)
  deriving Repr

/-- The places where a directive may stand. -/
inductive DirectiveLocation where
  | query | mutation | subscription | field | fragmentDefinition | fragmentSpread
  | inlineFragment | variableDefinition
  | schema | scalar | object | fieldDefinition | argumentDefinition | interface | union
  | enum | enumValue | inputObject | inputFieldDefinition
  deriving DecidableEq, Repr

namespace DirectiveLocation

/-- The keyword of a location and the words that describe it. -/
def spelling : DirectiveLocation → String × String
  | query => ("QUERY", "query")
  | mutation => ("MUTATION", "mutation")
  | subscription => ("SUBSCRIPTION", "subscription")
  | field => ("FIELD", "field")
  | fragmentDefinition => ("FRAGMENT_DEFINITION", "fragment definition")
  | fragmentSpread => ("FRAGMENT_SPREAD", "fragment spread")
  | inlineFragment => ("INLINE_FRAGMENT", "inline fragment")
  | variableDefinition => ("VARIABLE_DEFINITION", "variable definition")
  | schema => ("SCHEMA", "schema")
  | scalar => ("SCALAR", "scalar")
  | object => ("OBJECT", "object")
  | fieldDefinition => ("FIELD_DEFINITION", "field definition")
  | argumentDefinition => ("ARGUMENT_DEFINITION", "argument definition")
  | interface => ("INTERFACE", "interface")
  | union => ("UNION", "union")
  | enum => ("ENUM", "enum")
  | enumValue => ("ENUM_VALUE", "enum value")
  | inputObject => ("INPUT_OBJECT", "input object")
  | inputFieldDefinition => ("INPUT_FIELD_DEFINITION", "input field definition")

def all : List DirectiveLocation :=
  [query, mutation, subscription, field, fragmentDefinition, fragmentSpread, inlineFragment,
    variableDefinition, schema, scalar, object, fieldDefinition, argumentDefinition, interface,
    union, enum, enumValue, inputObject, inputFieldDefinition]

def keyword (l : DirectiveLocation) : String := l.spelling.1

def words (l : DirectiveLocation) : String := l.spelling.2

def ofKeyword? (s : String) : Option DirectiveLocation := all.find? (·.keyword = s)

end DirectiveLocation

structure Operation where
  kind : OperationKind
  name : Option String
  declared : List VariableDefinition
  directives : List Directive
  selections : List Selection
  deriving Repr

structure Fragment where
  name : String
  typeName : String
  directives : List Directive
  selections : List Selection
  deriving Repr

structure DirectiveDefinition where
  description : Option StringLiteral
  name : String
  arguments : List InputDefinition
  repeatable : Bool
  locations : List DirectiveLocation
  deriving Repr

/-- A definition of a schema's root types, or, with `extending`, an extension of it. -/
structure SchemaDefinition where
  extending : Bool
  description : Option StringLiteral
  directives : List Directive
  roots : List (OperationKind × String)
  deriving Repr

/-- A definition of a type, or, with `extending`, an extension of one. -/
structure TypeDefinition where
  extending : Bool
  description : Option StringLiteral
  name : String
  directives : List Directive
  body : TypeBody
  deriving Repr

inductive Definition where
  | operation (operation : Operation)
  | fragment (fragment : Fragment)
  | schema (schema : SchemaDefinition)
  | type (type : TypeDefinition)
  | directive (directive : DirectiveDefinition)
  deriving Repr

structure Document where
  definitions : List Definition
  deriving Repr

end RequestBook
