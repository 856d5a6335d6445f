import RequestBook.Document.Basic

/-!
# Built-in types and directives

What every schema has without defining it: five scalar types, the types in which a schema
describes itself, and four directives. They are definitions like those of a document, so
nothing that works on definitions treats them apart.
-/

namespace RequestBook.Builtin

/-! ## Types -/

def definition (name : String) (body : TypeBody) (description : String) : TypeDefinition :=
  ⟨false, some ⟨description, false⟩, name, [], body⟩

def plainField (name : String) (type : TypeExpr) : FieldDefinition :=
  ⟨none, name, [], type, []⟩

def describedField (name : String) (type : TypeExpr) (description : String) : FieldDefinition :=
  ⟨some ⟨description, false⟩, name, [], type, []⟩

/-- A field that leaves deprecated elements out unless it is asked for them. -/
def filteredField (name : String) (type : TypeExpr) : FieldDefinition :=
  let argument : InputDefinition :=
    ⟨none, "includeDeprecated", .named "Boolean", some (.boolean false), []⟩
  ⟨none, name, [argument], type, []⟩

def plainValue (name : String) : EnumValueDefinition := ⟨none, name, []⟩

def typeKinds : List String :=
  ["SCALAR", "OBJECT", "INTERFACE", "UNION", "ENUM", "INPUT_OBJECT", "LIST", "NON_NULL"]

/-- The scalar types of every schema. -/
def scalars : List TypeDefinition := [
  definition "Int" .scalar
    ("The `Int` scalar type represents non-fractional signed whole numeric values. Int can " ++
     "represent values between -(2^31) and 2^31 - 1."),
  definition "Float" .scalar
    ("The `Float` scalar type represents signed double-precision fractional values as specified " ++
     "by [IEEE 754](https://en.wikipedia.org/wiki/IEEE_floating_point)."),
  definition "String" .scalar
    ("The `String` scalar type represents textual data, represented as UTF-8 character " ++
     "sequences. The String type is most often used by GraphQL to represent free-form " ++
     "human-readable text."),
  definition "Boolean" .scalar
    "The `Boolean` scalar type represents `true` or `false`.",
  definition "ID" .scalar
    ("The `ID` scalar type represents a unique identifier, often used to refetch an object or " ++
     "as key for a cache. The ID type appears in a JSON response as a String; however, it is " ++
     "not intended to be human-readable. When expected as an input type, any string (such as " ++
     "`\"4\"`) or integer (such as `4`) input value will be accepted as an ID.")]

def schemaType : TypeDefinition :=
  definition "__Schema" (.object [] [
    plainField "description" (.named "String"),
    describedField "types" (.nonNull (.list (.nonNull (.named "__Type"))))
      "A list of all types supported by this server.",
    describedField "queryType" (.nonNull (.named "__Type"))
      "The type that query operations will be rooted at.",
    describedField "mutationType" (.named "__Type")
      "If this server supports mutation, the type that mutation operations will be rooted at.",
    describedField "subscriptionType" (.named "__Type")
      ("If this server support subscription, the type that subscription operations will be " ++
       "rooted at."),
    describedField "directives" (.nonNull (.list (.nonNull (.named "__Directive"))))
      "A list of all directives supported by this server."])
    ("A GraphQL Schema defines the capabilities of a GraphQL server. It exposes all available " ++
     "types and directives on the server, as well as the entry points for query, mutation, and " ++
     "subscription operations.")

def typeType : TypeDefinition :=
  definition "__Type" (.object [] [
    plainField "kind" (.nonNull (.named "__TypeKind")),
    plainField "name" (.named "String"),
    plainField "description" (.named "String"),
    plainField "specifiedByURL" (.named "String"),
    filteredField "fields" (.list (.nonNull (.named "__Field"))),
    plainField "interfaces" (.list (.nonNull (.named "__Type"))),
    plainField "possibleTypes" (.list (.nonNull (.named "__Type"))),
    filteredField "enumValues" (.list (.nonNull (.named "__EnumValue"))),
    filteredField "inputFields" (.list (.nonNull (.named "__InputValue"))),
    plainField "ofType" (.named "__Type")])
    ("The fundamental unit of any GraphQL Schema is the type. There are many kinds of types in " ++
     "GraphQL as represented by the `__TypeKind` enum.\n\nDepending on the kind of a type, " ++
     "certain fields describe information about that type. Scalar types provide no information " ++
     "beyond a name, description and optional `specifiedByURL`, while Enum types provide their " ++
     "values. Object and Interface types provide the fields they describe. Abstract types, " ++
     "Union and Interface, provide the Object types possible at runtime. List and NonNull types " ++
     "compose other types.")

def typeKindType : TypeDefinition :=
  definition "__TypeKind" (.enum (typeKinds.map plainValue))
    "An enum describing what kind of type a given `__Type` is."

def fieldType : TypeDefinition :=
  definition "__Field" (.object [] [
    plainField "name" (.nonNull (.named "String")),
    plainField "description" (.named "String"),
    filteredField "args" (.nonNull (.list (.nonNull (.named "__InputValue")))),
    plainField "type" (.nonNull (.named "__Type")),
    plainField "isDeprecated" (.nonNull (.named "Boolean")),
    plainField "deprecationReason" (.named "String")])
    ("Object and Interface types are described by a list of Fields, each of which has a name, " ++
     "potentially a list of arguments, and a return type.")

def inputValueType : TypeDefinition :=
  definition "__InputValue" (.object [] [
    plainField "name" (.nonNull (.named "String")),
    plainField "description" (.named "String"),
    plainField "type" (.nonNull (.named "__Type")),
    describedField "defaultValue" (.named "String")
      "A GraphQL-formatted string representing the default value for this input value.",
    plainField "isDeprecated" (.nonNull (.named "Boolean")),
    plainField "deprecationReason" (.named "String")])
    ("Arguments provided to Fields or Directives and the input fields of an InputObject are " ++
     "represented as Input Values which describe their type and optionally a default value.")

def enumValueType : TypeDefinition :=
  definition "__EnumValue" (.object [] [
    plainField "name" (.nonNull (.named "String")),
    plainField "description" (.named "String"),
    plainField "isDeprecated" (.nonNull (.named "Boolean")),
    plainField "deprecationReason" (.named "String")])
    ("One possible value for a given Enum. Enum values are unique values, not a placeholder " ++
     "for a string or numeric value. However an Enum value is returned in a JSON response as a " ++
     "string.")

def directiveType : TypeDefinition :=
  definition "__Directive" (.object [] [
    plainField "name" (.nonNull (.named "String")),
    plainField "description" (.named "String"),
    plainField "isRepeatable" (.nonNull (.named "Boolean")),
    plainField "locations" (.nonNull (.list (.nonNull (.named "__DirectiveLocation")))),
    filteredField "args" (.nonNull (.list (.nonNull (.named "__InputValue"))))])
    ("A Directive provides a way to describe alternate runtime execution and type validation " ++
     "behavior in a GraphQL document.\n\nIn some cases, you need to provide options to alter " ++
     "GraphQL's execution behavior in ways field arguments will not suffice, such as " ++
     "conditionally including or skipping a field. Directives provide this by describing " ++
     "additional information to the executor.")

def locationType : TypeDefinition :=
  definition "__DirectiveLocation"
    (.enum (DirectiveLocation.all.map fun l => plainValue l.keyword))
    ("A Directive can be adjacent to many parts of the GraphQL language, a __DirectiveLocation " ++
     "describes one such possible adjacencies.")

/-- The types in which a schema describes itself. -/
def introspectionTypes : List TypeDefinition :=
  [schemaType, typeType, typeKindType, fieldType, inputValueType, enumValueType, directiveType,
    locationType]

def types : List TypeDefinition := scalars ++ introspectionTypes

/-! ## Directives -/

def executableLocations : List DirectiveLocation := [.field, .fragmentSpread, .inlineFragment]

def conditionArgument : InputDefinition := ⟨none, "if", .nonNull (.named "Boolean"), none, []⟩

/-- The reason of a deprecation that gives none. -/
def defaultReason : String := "No longer supported"

def includeIf : DirectiveDefinition :=
  ⟨none, "include", [conditionArgument], false, executableLocations⟩

def skipIf : DirectiveDefinition := ⟨none, "skip", [conditionArgument], false, executableLocations⟩

def deprecated : DirectiveDefinition :=
  ⟨none, "deprecated",
    [⟨none, "reason", .named "String", some (.string ⟨defaultReason, false⟩), []⟩], false,
    [.fieldDefinition, .argumentDefinition, .inputFieldDefinition, .enumValue]⟩

def specifiedBy : DirectiveDefinition :=
  ⟨none, "specifiedBy", [⟨none, "url", .nonNull (.named "String"), none, []⟩], false, [.scalar]⟩

def directives : List DirectiveDefinition := [includeIf, skipIf, deprecated, specifiedBy]

end RequestBook.Builtin
