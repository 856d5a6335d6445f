import RequestBook.Definitions.Builtin
import RequestBook.Document.Printer
import RequestBook.Text.Suggestion

/-!
# Rules for schema documents

A document that defines a schema may define every name once, may refer to what is defined
or built in only, and has to give directives the arguments they ask for. Every breach is
found, in the order of the document; what has to be unique is compared with what stands
before it.
-/

namespace RequestBook

/-- What breaks a rule. A name that is not known comes with those that are. -/
inductive Breach where
  | repeatedSchema
  | repeatedRoot (kind : OperationKind)
  | repeatedType (name : String)
  | repeatedEnumValue (type value : String)
  | repeatedField (type field : String)
  | repeatedArgumentDefinition (owner argument : String)
  | repeatedDirectiveDefinition (name : String)
  | unknownType (name : String) (known : List String)
  | unknownDirective (name : String)
  | misplacedDirective (name : String) (location : DirectiveLocation)
  | repeatedDirective (name : String)
  | unknownExtended (name : String) (known : List String)
  | unlikeExtended (name : String) (extension : TypeBody)
  | unknownArgument (directive argument : String) (known : List String)
  | repeatedArgument (name : String)
  | repeatedMember (name : String)
  | missingArgument (directive argument : String) (type : TypeExpr)

/-- What a type with that body is called. -/
def TypeBody.words : TypeBody → String
  | .scalar => "scalar"
  | .object .. => "object"
  | .interface .. => "interface"
  | .union _ => "union"
  | .enum _ => "enum"
  | .input _ => "input object"

/-- What is said of a name that is not known, with the known names near to it. -/
def mistaken (message name : String) (known : List String) : Except Nat String :=
  (Text.suggestions name known).map fun near => message ++ Text.didYouMean near

/-- What is said of a breach, or how many digits a name has that hinder this. -/
def Breach.message : Breach → Except Nat String
  | repeatedSchema => .ok "Must provide only one schema definition."
  | repeatedRoot kind => .ok ("There can be only one " ++ kind.keyword ++ " type in schema.")
  | repeatedType name => .ok ("There can be only one type named '" ++ name ++ "'.")
  | repeatedEnumValue type value =>
    .ok ("Enum value '" ++ type ++ "." ++ value ++ "' can only be defined once.")
  | repeatedField type field =>
    .ok ("Field '" ++ type ++ "." ++ field ++ "' can only be defined once.")
  | repeatedArgumentDefinition owner argument =>
    .ok ("Argument '" ++ owner ++ "(" ++ argument ++ ":)' can only be defined once.")
  | repeatedDirectiveDefinition name =>
    .ok ("There can be only one directive named '@" ++ name ++ "'.")
  | unknownType name known => mistaken ("Unknown type '" ++ name ++ "'.") name known
  | unknownDirective name => .ok ("Unknown directive '@" ++ name ++ "'.")
  | misplacedDirective name location =>
    .ok ("Directive '@" ++ name ++ "' may not be used on " ++ location.words ++ ".")
  | repeatedDirective name =>
    .ok ("The directive '@" ++ name ++ "' can only be used once at this location.")
  | unknownExtended name known =>
    mistaken ("Cannot extend type '" ++ name ++ "' because it is not defined.") name known
  | unlikeExtended name extension =>
    .ok ("Cannot extend non-" ++ extension.words ++ " type '" ++ name ++ "'.")
  | unknownArgument directive argument known =>
    mistaken ("Unknown argument '" ++ argument ++ "' on directive '@" ++ directive ++ "'.")
      argument known
  | repeatedArgument name => .ok ("There can be only one argument named '" ++ name ++ "'.")
  | repeatedMember name => .ok ("There can be only one input field named '" ++ name ++ "'.")
  | missingArgument directive argument type =>
    .ok ("Directive '@" ++ directive ++ "' argument '" ++ argument ++ "' of type '" ++
      type.print ++ "' is required, but it was not provided.")

/-! ## Names that come up twice -/

/-- The names that come up again, each time they do; those in `seen` have come up before. -/
def repeats [BEq α] (seen : List α) : List α → List α
  | [] => []
  | x :: rest => if seen.contains x then x :: repeats seen rest else repeats (x :: seen) rest

/-- The names that come up more than once, each one once. -/
def repeated (names : List String) : List String :=
  names.eraseDups.filter fun n => names.count n > 1

/-! ## What a document defines -/

def TypeExpr.isRequired : TypeExpr → Bool
  | .nonNull _ => true
  | _ => false

namespace TypeBody

def enumValues : TypeBody → List EnumValueDefinition
  | .enum values => values
  | _ => []

/-- The names of the fields that a type holds, of either sort. -/
def fieldNames : TypeBody → List String
  | .object _ fields | .interface _ fields => fields.map (·.name)
  | .input fields => fields.map (·.name)
  | _ => []

def outputFields : TypeBody → List FieldDefinition
  | .object _ fields | .interface _ fields => fields
  | _ => []

/-- The place where the directives of a type stand. -/
def location : TypeBody → DirectiveLocation
  | .scalar => .scalar
  | .object .. => .object
  | .interface .. => .interface
  | .union _ => .union
  | .enum _ => .enum
  | .input _ => .inputObject

end TypeBody

namespace Definition

def type? : Definition → Option TypeDefinition
  | .type t => some t
  | _ => none

def schema? : Definition → Option SchemaDefinition
  | .schema s => some s
  | _ => none

def directive? : Definition → Option DirectiveDefinition
  | .directive d => some d
  | _ => none

end Definition

/-- The type definitions and extensions of that name. -/
def typesNamed (name : String) (definitions : List Definition) : List TypeDefinition :=
  (definitions.filterMap Definition.type?).filter (·.name = name)

/-- The definitions, without extensions, of types. -/
def definedTypes (definitions : List Definition) : List TypeDefinition :=
  (definitions.filterMap Definition.type?).filter (!·.extending)

namespace Document

def typeDefinitions (doc : Document) : List TypeDefinition := definedTypes doc.definitions

def directiveDefinitions (doc : Document) : List DirectiveDefinition :=
  doc.definitions.filterMap Definition.directive?

/-- What a directive's name means: its last definition, else what is built in. -/
def directive? (doc : Document) (name : String) : Option DirectiveDefinition :=
  (doc.directiveDefinitions.reverse ++ Builtin.directives).find? (·.name = name)

/-- Whether a name means a directive that may stand once in one place. -/
def isSingle (doc : Document) (name : String) : Bool :=
  match doc.directive? name with
  | some d => !d.repeatable
  | none => false

end Document

/-! ## The breaches in each part -/

mutual

/-- Members that a value gives twice, at any depth. -/
def Value.breaches : Value → List Breach
  | .list items => Value.itemBreaches items
  | .object members => Value.memberBreaches [] members
  | _ => []

def Value.itemBreaches : List Value → List Breach
  | [] => []
  | v :: rest => v.breaches ++ Value.itemBreaches rest

def Value.memberBreaches (seen : List String) : List (String × Value) → List Breach
  | [] => []
  | (name, v) :: rest =>
    (if name ∈ seen then [.repeatedMember name] else []) ++ v.breaches ++
      Value.memberBreaches (name :: seen) rest

end

def repeatedArguments (arguments : List ValueArgument) : List Breach :=
  (repeated (arguments.map (·.name))).map .repeatedArgument

namespace Document

variable (doc : Document)

/-- The definitions of a schema may refer to built-in types as well; operations have to do
with what the document defines. -/
def typeNameBreaches (inSchema : Bool) (name : String) : List Breach :=
  let known := doc.typeDefinitions.map (·.name) ++
    if inSchema then Builtin.types.map (·.name) else []
  if name ∈ known then [] else [.unknownType name known]

def repeatedDirectives (seen ds : List Directive) : List Breach :=
  let single (ds : List Directive) := (ds.map (·.name)).filter doc.isSingle
  (repeats (single seen) (single ds)).map .repeatedDirective

def directiveBreaches (location : DirectiveLocation) (d : Directive) : List Breach :=
  let given := d.arguments.map (·.name)
  match doc.directive? d.name with
  | none =>
    .unknownDirective d.name :: repeatedArguments d.arguments ++
      d.arguments.flatMap (·.value.breaches)
  | some definition =>
    let known := definition.arguments.map (·.name)
    let required := definition.arguments.filter fun a => a.type.isRequired && a.defaultValue.isNone
    let missing := (Entries.putAll (· == ·) (required.map fun a => (a.name, a.type)) []).filter
      fun (name, _) => !given.contains name
    (if location ∈ definition.locations then [] else [.misplacedDirective d.name location]) ++
      (given.filter (· ∉ known)).map (fun a => .unknownArgument d.name a known) ++
      repeatedArguments d.arguments ++ d.arguments.flatMap (·.value.breaches) ++
      missing.map fun (name, type) => .missingArgument d.name name type

def directivesBreaches (location : DirectiveLocation) (ds : List Directive) : List Breach :=
  ds.flatMap (doc.directiveBreaches location)

/-! ### Definitions of a schema -/

def inputBreaches (location : DirectiveLocation) (d : InputDefinition) : List Breach :=
  doc.repeatedDirectives [] d.directives ++ doc.typeNameBreaches true d.type.leaf ++
    (d.defaultValue.map Value.breaches).getD [] ++ doc.directivesBreaches location d.directives

def fieldBreaches (d : FieldDefinition) : List Breach :=
  doc.repeatedDirectives [] d.directives ++
    d.arguments.flatMap (doc.inputBreaches .argumentDefinition) ++
    doc.typeNameBreaches true d.type.leaf ++ doc.directivesBreaches .fieldDefinition d.directives

def enumValueBreaches (d : EnumValueDefinition) : List Breach :=
  doc.repeatedDirectives [] d.directives ++ doc.directivesBreaches .enumValue d.directives

/-- Directives on the fields that an extension adds to an input type stand where directives
on arguments may. -/
def bodyBreaches (t : TypeDefinition) : List Breach :=
  let directives := doc.directivesBreaches t.body.location t.directives
  match t.body with
  | .scalar => directives
  | .object interfaces fields | .interface interfaces fields =>
    interfaces.flatMap (doc.typeNameBreaches true) ++ directives ++
      fields.flatMap doc.fieldBreaches
  | .union members => directives ++ members.flatMap (doc.typeNameBreaches true)
  | .enum values => directives ++ values.flatMap doc.enumValueBreaches
  | .input fields =>
    let location := if t.extending then .argumentDefinition else .inputFieldDefinition
    directives ++ fields.flatMap (doc.inputBreaches location)

/-- An extension needs a definition of the same sort. -/
def extensionBreaches (t : TypeDefinition) : List Breach :=
  match doc.typeDefinitions.reverse.find? (·.name = t.name) with
  | none =>
    [.unknownExtended t.name (doc.typeDefinitions.map (·.name))]
  | some definition =>
    if definition.body.location = t.body.location then [] else [.unlikeExtended t.name t.body]

def repeatedArgumentDefinitions (owner : String) (arguments : List InputDefinition) :
    List Breach :=
  (repeated (arguments.map (·.name))).map (.repeatedArgumentDefinition owner)

def typeBreaches (before : List Definition) (t : TypeDefinition) : List Breach :=
  let earlier := typesNamed t.name before
  let values (t : TypeDefinition) := t.body.enumValues.map (·.name)
  let fields (t : TypeDefinition) := t.body.fieldNames
  (if !t.extending && earlier.any (!·.extending) then [.repeatedType t.name] else []) ++
    (repeats (earlier.flatMap values) (values t)).map (.repeatedEnumValue t.name) ++
    (repeats (earlier.flatMap fields) (fields t)).map (.repeatedField t.name) ++
    t.body.outputFields.flatMap (fun f =>
      repeatedArgumentDefinitions (t.name ++ "." ++ f.name) f.arguments) ++
    doc.repeatedDirectives (earlier.flatMap (·.directives)) t.directives ++
    (if t.extending then doc.extensionBreaches t else []) ++ doc.bodyBreaches t

def schemaBreaches (before : List Definition) (s : SchemaDefinition) : List Breach :=
  let earlier := before.filterMap Definition.schema?
  let kinds (s : SchemaDefinition) := s.roots.map (·.1)
  (if !s.extending && earlier.any (!·.extending) then [.repeatedSchema] else []) ++
    (repeats (earlier.flatMap kinds) (kinds s)).map .repeatedRoot ++
    doc.repeatedDirectives (earlier.flatMap (·.directives)) s.directives ++
    doc.directivesBreaches .schema s.directives ++
    s.roots.flatMap fun (_, name) => doc.typeNameBreaches true name

def directiveDefinitionBreaches (before : List Definition) (d : DirectiveDefinition) :
    List Breach :=
  repeatedArgumentDefinitions ("@" ++ d.name) d.arguments ++
    (if (before.filterMap Definition.directive?).any (·.name = d.name)
      then [.repeatedDirectiveDefinition d.name] else []) ++
    d.arguments.flatMap (doc.inputBreaches .argumentDefinition)

/-! ### Operations and fragments -/

def variableBreaches (v : VariableDefinition) : List Breach :=
  doc.repeatedDirectives [] v.directives ++ doc.typeNameBreaches false v.type.leaf ++
    (v.defaultValue.map Value.breaches).getD [] ++
    doc.directivesBreaches .variableDefinition v.directives

mutual

def selectionBreaches : Selection → List Breach
  | .field _ _ arguments directives selections =>
    doc.repeatedDirectives [] directives ++ repeatedArguments arguments ++
      arguments.flatMap (·.value.breaches) ++ doc.directivesBreaches .field directives ++
      selectionsBreaches selections
  | .spread _ directives =>
    doc.repeatedDirectives [] directives ++ doc.directivesBreaches .fragmentSpread directives
  | .inline typeName directives selections =>
    doc.repeatedDirectives [] directives ++
      typeName.toList.flatMap (doc.typeNameBreaches false) ++
      doc.directivesBreaches .inlineFragment directives ++ selectionsBreaches selections

def selectionsBreaches : List Selection → List Breach
  | [] => []
  | s :: rest => selectionBreaches s ++ selectionsBreaches rest

end

def operationBreaches (o : Operation) : List Breach :=
  let location := match o.kind with
    | .query => .query
    | .mutation => .mutation
    | .subscription => .subscription
  doc.repeatedDirectives [] o.directives ++ o.declared.flatMap doc.variableBreaches ++
    doc.directivesBreaches location o.directives ++ doc.selectionsBreaches o.selections

def fragmentBreaches (f : Fragment) : List Breach :=
  doc.repeatedDirectives [] f.directives ++ doc.typeNameBreaches false f.typeName ++
    doc.directivesBreaches .fragmentDefinition f.directives ++
    doc.selectionsBreaches f.selections

/-! ### Documents -/

def definitionBreaches (before : List Definition) : Definition → List Breach
  | .operation o => doc.operationBreaches o
  | .fragment f => doc.fragmentBreaches f
  | .schema s => doc.schemaBreaches before s
  | .type t => doc.typeBreaches before t
  | .directive d => doc.directiveDefinitionBreaches before d

def breachesFrom (before : List Definition) : List Definition → List Breach
  | [] => []
  | d :: rest => doc.definitionBreaches before d ++ breachesFrom (before ++ [d]) rest

/-- Every breach in a document. -/
def breaches : List Breach := doc.breachesFrom [] doc.definitions

end Document

end RequestBook
