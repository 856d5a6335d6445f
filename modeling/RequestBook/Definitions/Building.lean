import RequestBook.Definitions.Constants

/-!
# Building schemas

The definitions of a document make a schema in a fixed order, and the first defect in that
order counts: enums and scalars, then directives, then every type with its interfaces before
its fields. Types that are only referred to come behind the type that refers to them first.
-/

namespace RequestBook

/-! ## What names mean -/

/-- A body with what an extension adds to it. -/
def TypeBody.extended : TypeBody → TypeBody → TypeBody
  | .object is fs, .object js gs => .object (is ++ js) (fs ++ gs)
  | .interface is fs, .interface js gs => .interface (is ++ js) (fs ++ gs)
  | .union ms, .union ns => .union (ms ++ ns)
  | .enum vs, .enum ws => .enum (vs ++ ws)
  | .input fs, .input gs => .input (fs ++ gs)
  | body, _ => body

namespace Document

/-- The types that a document defines; a built-in name keeps its meaning. -/
def types (doc : Document) : List TypeDefinition :=
  doc.typeDefinitions.map fun t =>
    let extensions := (typesNamed t.name doc.definitions).filter (·.extending)
    (Builtin.types.find? (·.name = t.name)).getD
      { t with body := extensions.foldl (fun b e => b.extended e.body) t.body }

def scope (doc : Document) : Scope :=
  let types := doc.types
  ⟨types ++ Builtin.types.filter fun b => types.all (·.name ≠ b.name)⟩

/-- The name of a root type. Where no schema definition says so, it is the usual one. -/
def root (doc : Document) (kind : OperationKind) (usual : String) : Option String :=
  let schemas := doc.definitions.filterMap Definition.schema?
  let stated := (schemas.flatMap (·.roots)).lookup kind
  if schemas.all (·.extending) && doc.typeDefinitions.any (·.name = usual) then some usual
  else stated

end Document

namespace TypeBody

def isInput : TypeBody → Bool
  | .scalar | .enum _ | .input _ => true
  | _ => false

def isOutput : TypeBody → Bool
  | .input _ => false
  | _ => true

def isInterface : TypeBody → Bool
  | .interface .. => true
  | _ => false

def isObject : TypeBody → Bool
  | .object .. => true
  | _ => false

end TypeBody

/-- Whether a name means a type with such a body. -/
def Scope.names (s : Scope) (holds : TypeBody → Bool) (name : String) : Bool :=
  (s.find? name).any fun t => holds t.body

/-! ## Directives with a meaning -/

/-- The last argument of that name. -/
def Directive.argument? (d : Directive) (name : String) : Option ValueArgument :=
  d.arguments.reverse.find? (·.name = name)

/-- Whether directives deprecate what they stand at. A null reason is none. -/
def isDeprecated (ds : List Directive) : Except Defect Bool :=
  match ds.find? (·.name = Builtin.deprecated.name) with
  | none => .ok false
  | some d =>
    match d.argument? "reason" with
    | none => .ok true
    | some ⟨_, .string _, _⟩ => .ok true
    | some ⟨_, .null, _⟩ => .ok false
    | some ⟨name, value, site⟩ => .error (.invalidArgument name value site)

/-- A scalar says where it is specified by a text, or not at all. -/
def checkSpecified (ds : List Directive) : Except Defect Unit :=
  match ds.find? (·.name = Builtin.specifiedBy.name) with
  | none => .ok ()
  | some d =>
    let type := .nonNull (.named "String")
    match d.argument? "url" with
    | none => .error (.absentArgument "url" type d.site)
    | some ⟨_, .string _, _⟩ => .ok ()
    | some ⟨name, .null, site⟩ => .error (.nullArgument name type site)
    | some ⟨name, value, site⟩ => .error (.invalidArgument name value site)

/-- What is looked at in a type before any type is built. -/
def TypeDefinition.checkEarly (t : TypeDefinition) : Except Defect Unit :=
  match t.body with
  | .scalar => checkSpecified t.directives
  | .enum values => values.forM fun v => do let _ ← isDeprecated v.directives
  | _ => .ok ()

/-! ## Types -/

def textOf (description : Option StringLiteral) : Option String := description.map (·.text)

/-- An argument or input field; `unfit` is the defect of one whose type has no literals. -/
def InputDefinition.build (scope : Scope) (inputs : InputTypes) (unfit : Defect)
    (d : InputDefinition) : Except Defect InputValue := do
  let defaultValue ← match d.defaultValue with
    | some v => (v.coerce scope inputs d.type).run
    | none => pure none
  let deprecated ← isDeprecated d.directives
  if scope.names TypeBody.isInput d.type.leaf then
    return ⟨d.name, d.type, defaultValue, deprecated, textOf d.description⟩
  else .error unfit

def FieldDefinition.build (scope : Scope) (inputs : InputTypes) (d : FieldDefinition) :
    Except Defect DefinedField := do
  let arguments ← d.arguments.mapM (·.build scope inputs .notArgument)
  let _ ← isDeprecated d.directives
  if scope.names TypeBody.isOutput d.type.leaf then
    return ⟨d.name, d.type, arguments, textOf d.description⟩
  else .error .notOutput

def buildInputFields (scope : Scope) (inputs : InputTypes) (name : String)
    (fields : List InputDefinition) : Except Defect (List InputValue) :=
  (fields.mapM (InputDefinition.build scope inputs .notInputField)).mapError (.fields name)

/-- The fields of every input type whose defaults nest fewer than `levels` input types. -/
def inputTypes (scope : Scope) : (levels : Nat) → InputTypes
  | 0 => []
  | levels + 1 =>
    let inner := inputTypes scope levels
    scope.types.filterMap fun t =>
      match t.body with
      | .input fields => some (t.name, buildInputFields scope inner t.name fields)
      | _ => none

/-- A chain of nested defaults that does not return meets every input type at most once. -/
def Scope.inputTypes (s : Scope) : InputTypes :=
  RequestBook.inputTypes s
    (s.types.countP fun t => match t.body with | .input _ => true | _ => false)

def TypeDefinition.build (scope : Scope) (inputs : InputTypes) (t : TypeDefinition) :
    Except Defect DefinedType := do
  let outputFields (interfaces : List String) (fields : List FieldDefinition) :=
    if interfaces.all (scope.names TypeBody.isInterface) then
      (fields.mapM (FieldDefinition.build scope inputs)).mapError (.fields t.name)
    else .error (.notInterface t.name)
  let body ← match t.body with
    | .scalar => pure .scalar
    | .object interfaces fields => DefinedBody.object interfaces <$> outputFields interfaces fields
    | .interface interfaces fields =>
      DefinedBody.interface interfaces <$> outputFields interfaces fields
    | .union members =>
      if members.all (scope.names TypeBody.isObject) then pure (.union members)
      else .error (.notMember t.name)
    | .enum values => pure (.enum (values.map (·.name)))
    | .input fields => DefinedBody.input <$> buildInputFields scope inputs t.name fields
  return ⟨t.name, textOf t.description, body⟩

def DirectiveDefinition.build (scope : Scope) (inputs : InputTypes) (d : DirectiveDefinition) :
    Except Defect DefinedDirective := do
  return ⟨d.name, ← d.arguments.mapM (·.build scope inputs .notArgument)⟩

/-! ## The order of types -/

/-- The types that a type refers to. -/
def DefinedType.references (t : DefinedType) : List String :=
  match t.body with
  | .scalar | .enum _ => []
  | .object interfaces fields | .interface interfaces fields =>
    interfaces ++ fields.flatMap fun f => f.type.leaf :: f.arguments.map (·.type.leaf)
  | .union members => members
  | .input fields => fields.map (·.type.leaf)

/-- The names seen so far, with one more and those that it leads to; names that are still
`pending` get their own turn. Every level adds a name, so there are fewer than types. -/
def collect (references : String → List String) (pending : List String) :
    (levels : Nat) → (seen : List String) → String → List String
  | 0, seen, _ => seen
  | levels + 1, seen, name =>
    if name ∈ seen ∨ name ∈ pending then seen
    else (references name).foldl (collect references pending levels) (seen ++ [name])

def collectAll (references : String → List String) (levels : Nat) (seen : List String) :
    List String → List String
  | [] => seen
  | name :: pending =>
    collectAll references levels (collect references pending levels seen name) pending

/-- The schema that a document defines. -/
def Document.build (doc : Document) : Except Defect DefinedSchema := do
  let scope := doc.scope
  let inputs := scope.inputTypes
  doc.types.forM TypeDefinition.checkEarly
  let own ← doc.directiveDefinitions.mapM (·.build scope inputs)
  let builtin ← (Builtin.directives.filter fun b => own.all (·.name ≠ b.name)).mapM
    (·.build scope inputs)
  let types ← scope.types.mapM fun t => t.build scope inputs
  let directives := own ++ builtin
  let query := doc.root .query "Query"
  let mutation := doc.root .mutation "Mutation"
  let subscription := doc.root .subscription "Subscription"
  let references := fun name => ((types.find? (·.name = name)).map (·.references)).getD []
  let levels := types.length + 1
  let names := collectAll references levels [] (doc.types.map (·.name))
  let referred := query.toList ++ mutation.toList ++ subscription.toList ++
    directives.flatMap (fun d => d.arguments.map (·.type.leaf)) ++ [Builtin.schemaType.name]
  let names := referred.foldl (collect references [] levels) names
  return ⟨names.filterMap fun name => types.find? (·.name = name), directives, query, mutation,
    subscription⟩

end RequestBook
