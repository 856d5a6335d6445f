import RequestBook.Definitions.Basic

/-!
# Conformance

What a schema has to satisfy as a whole: root types are objects, no name is reserved, no type
is empty, every type has what its interfaces promise, and no input type needs itself. Every
violation is found, in the order of the types.
-/

namespace RequestBook

inductive Violation where
  | noQuery
  | rootNotObject (kind : OperationKind) (type : String)
  | reservedName (name : String)
  | deprecatedArgument (owner argument : String)
  | deprecatedField (type field : String)
  | noFields (type : String)
  | noInputFields (type : String)
  | noMembers (type : String)
  | noValues (type : String)
  | repeatedMember (type member : String)
  | ownInterface (type : String)
  | repeatedInterface (type interface : String)
  | circularInterface (type interface : String)
  | absentInterface (type absent interface : String)
  | absentField (interface field type : String)
  | otherType (interface field : String) (promised : TypeExpr) (type : String) (found : TypeExpr)
  | absentArgument (interface field argument type : String)
  | otherArgument (interface field argument : String) (promised : TypeExpr) (type : String)
      (found : TypeExpr)
  | additionalArgument (type field argument interface : String)
  | endlessInput (type : String) (path : List String)

/-- The word that messages call a root type by. -/
def OperationKind.title : OperationKind → String
  | query => "Query"
  | mutation => "Mutation"
  | subscription => "Subscription"

namespace Violation

def message : Violation → String
  | noQuery => "Query root type must be provided."
  | rootNotObject kind type =>
    kind.title ++ " root type must be Object type" ++
      (if kind = .query then "" else " if provided") ++ ", it cannot be " ++ type ++ "."
  | reservedName name =>
    "Name '" ++ name ++ "' must not begin with '__', which is reserved by GraphQL introspection."
  | deprecatedArgument owner argument =>
    "Required argument " ++ owner ++ "(" ++ argument ++ ":) cannot be deprecated."
  | deprecatedField type field =>
    "Required input field " ++ type ++ "." ++ field ++ " cannot be deprecated."
  | noFields type => "Type " ++ type ++ " must define one or more fields."
  | noInputFields type => "Input Object type " ++ type ++ " must define one or more fields."
  | noMembers type => "Union type " ++ type ++ " must define one or more member types."
  | noValues type => "Enum type " ++ type ++ " must define one or more values."
  | repeatedMember type member =>
    "Union type " ++ type ++ " can only include type " ++ member ++ " once."
  | ownInterface type =>
    "Type " ++ type ++ " cannot implement itself because it would create a circular reference."
  | repeatedInterface type interface =>
    "Type " ++ type ++ " can only implement " ++ interface ++ " once."
  | circularInterface type interface =>
    "Type " ++ type ++ " cannot implement " ++ interface ++
      " because it would create a circular reference."
  | absentInterface type absent interface =>
    "Type " ++ type ++ " must implement " ++ absent ++ " because it is implemented by " ++
      interface ++ "."
  | absentField interface field type =>
    "Interface field " ++ interface ++ "." ++ field ++ " expected but " ++ type ++
      " does not provide it."
  | otherType interface field promised type found =>
    "Interface field " ++ interface ++ "." ++ field ++ " expects type " ++ promised.print ++
      " but " ++ type ++ "." ++ field ++ " is type " ++ found.print ++ "."
  | absentArgument interface field argument type =>
    "Interface field argument " ++ interface ++ "." ++ field ++ "(" ++ argument ++
      ":) expected but " ++ type ++ "." ++ field ++ " does not provide it."
  | otherArgument interface field argument promised type found =>
    "Interface field argument " ++ interface ++ "." ++ field ++ "(" ++ argument ++
      ":) expects type " ++ promised.print ++ " but " ++ type ++ "." ++ field ++ "(" ++
      argument ++ ":) is type " ++ found.print ++ "."
  | additionalArgument type field argument interface =>
    "Object field " ++ type ++ "." ++ field ++ " includes required argument " ++ argument ++
      " that is missing from the Interface field " ++ interface ++ "." ++ field ++ "."
  | endlessInput type path =>
    "Cannot reference Input Object '" ++ type ++
      "' within itself through a series of non-null fields: '" ++ Text.separated "." path ++ "'."

end Violation

def reservedNames (names : List String) : List Violation :=
  (names.filter (·.startsWith "__")).map .reservedName

/-- What is wrong with the arguments of a field or directive. -/
def argumentViolations (owner : String) (arguments : List InputValue) : List Violation :=
  arguments.flatMap fun a =>
    reservedNames [a.name] ++
      if a.isRequired && a.deprecated then [.deprecatedArgument owner a.name] else []

namespace DefinedSchema

variable (s : DefinedSchema)

/-! ## Roots and directives -/

def rootViolations : List Violation :=
  let check (kind : OperationKind) (root : Option String) :=
    (root.toList.filter fun name => !s.names DefinedBody.isObject name).map
      (Violation.rootNotObject kind)
  (if s.query.isNone then [.noQuery] else []) ++ check .query s.query ++
    check .mutation s.mutation ++ check .subscription s.subscription

def directiveViolations : List Violation :=
  s.directives.flatMap fun d =>
    reservedNames [d.name] ++ argumentViolations ("@" ++ d.name) d.arguments

/-! ## Fields and interfaces -/

def fieldViolations (type : String) (fields : List DefinedField) : List Violation :=
  (if fields.isEmpty then [.noFields type] else []) ++
    fields.flatMap fun f =>
      reservedNames [f.name] ++ argumentViolations (type ++ "." ++ f.name) f.arguments

/-- Whether a value of the type `sub` may stand where one of the abstract type `super` is
asked for. -/
def isMember (super sub : String) : Bool :=
  match s.find? super, s.find? sub with
  | some ⟨_, _, .union members⟩, some ⟨_, _, .object ..⟩ => members.contains sub
  | some ⟨_, _, .interface ..⟩, some t => t.body.interfaces.contains super
  | _, _ => false

/-- Whether every value of a type is one of another type: wrappers may only narrow. -/
def isSubtype : (sub super : TypeExpr) → Bool
  | .nonNull a, .nonNull b => isSubtype a b
  | _, .nonNull _ => false
  | .nonNull a, b => isSubtype a b
  | .list a, .list b => isSubtype a b
  | .named a, .named b => a == b || s.isMember b a
  | _, _ => false

/-- What a field lacks of the field that an interface promises. -/
def promiseViolations (type : String) (interface : String) (promised f : DefinedField) :
    List Violation :=
  (if s.isSubtype f.type promised.type then []
    else [.otherType interface f.name promised.type type f.type]) ++
  promised.arguments.flatMap (fun p =>
    match f.arguments.find? (·.name = p.name) with
    | none => [.absentArgument interface f.name p.name type]
    | some a =>
      if p.type = a.type then []
      else [.otherArgument interface f.name p.name p.type type a.type]) ++
  (f.arguments.filter fun a =>
    a.isRequired && promised.arguments.all (·.name ≠ a.name)).map fun a =>
      .additionalArgument type f.name a.name interface

/-- What a type lacks of what an interface promises: the interfaces of the interface, then
its fields. -/
def interfaceViolations (t interface : DefinedType) : List Violation :=
  (interface.body.interfaces.filter (· ∉ t.body.interfaces)).map (fun ancestor =>
    if ancestor = t.name then .circularInterface t.name interface.name
    else .absentInterface t.name ancestor interface.name) ++
  interface.body.outputFields.flatMap fun promised =>
    match t.body.outputFields.find? (·.name = promised.name) with
    | none => [.absentField interface.name promised.name t.name]
    | some f => s.promiseViolations t.name interface.name promised f

/-- The interfaces in `seen` have been looked at. -/
def interfacesViolations (t : DefinedType) (seen : List String) : List String → List Violation
  | [] => []
  | name :: rest =>
    (if name = t.name then [.ownInterface name] else []) ++
      (if name ∈ seen then [.repeatedInterface t.name name]
        else ((s.find? name).map (s.interfaceViolations t)).getD []) ++
      interfacesViolations t (name :: seen) rest

/-! ## Input types -/

/-- The input types that a type needs in order to have a value, by field. -/
def needs (name : String) : List (String × String) :=
  (((s.find? name).map (·.body.inputFields)).getD []).filterMap fun f =>
    match f.type with
    | .nonNull (.named n) => if s.names DefinedBody.isInput n then some (f.name, n) else none
    | _ => none

/-- The types visited, and the ways found back to a type on the path. `path` holds the fields
from the first type to this one, each with the type it belongs to. -/
def inputCycles : (levels : Nat) → (path : List (String × String)) →
    (visited : List String) → String → List String × List Violation
  | 0, _, visited, _ => (visited, [])
  | levels + 1, path, visited, name =>
    if name ∈ visited then (visited, [])
    else
      (s.needs name).foldl (fun (visited, found) (field, needed) =>
        let path := path ++ [(name, field)]
        if path.any (·.1 = needed) then
          let cycle := (path.dropWhile (·.1 ≠ needed)).map (·.2)
          (visited, found ++ [.endlessInput needed cycle])
        else
          let (visited, more) := inputCycles levels path visited needed
          (visited, found ++ more)) (name :: visited, [])

def inputViolations (type : String) (fields : List InputValue) : List Violation :=
  (if fields.isEmpty then [.noInputFields type] else []) ++
    fields.flatMap fun f =>
      reservedNames [f.name] ++
        if f.isRequired && f.deprecated then [.deprecatedField type f.name] else []

/-! ## Types -/

/-- What is wrong with a type, cycles of input types aside. -/
def typeViolations (t : DefinedType) : List Violation :=
  (if Builtin.introspectionTypes.any (·.name = t.name) then [] else reservedNames [t.name]) ++
    match t.body with
    | .scalar => []
    | .object interfaces fields | .interface interfaces fields =>
      fieldViolations t.name fields ++ s.interfacesViolations t [] interfaces
    | .union members =>
      (if members.isEmpty then [.noMembers t.name] else []) ++
        (repeats [] members).map (.repeatedMember t.name)
    | .enum values =>
      (if values.isEmpty then [.noValues t.name] else []) ++ reservedNames values
    | .input fields => inputViolations t.name fields

def typesViolations (visited : List String) : List DefinedType → List Violation
  | [] => []
  | t :: rest =>
    let (visited, cycles) := s.inputCycles (s.types.length + 1) [] visited t.name
    s.typeViolations t ++ cycles ++ typesViolations visited rest

def violations : List Violation :=
  s.rootViolations ++ s.directiveViolations ++ s.typesViolations [] s.types

end DefinedSchema

end RequestBook
