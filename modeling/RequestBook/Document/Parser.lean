import RequestBook.Document.Printer
import RequestBook.Token.Reader

/-!
# Reading documents

One reader per construct. Values, types and selections nest, so their readers carry the
number of levels that may still open; a document never has more levels than tokens.
-/

namespace RequestBook

open TokenReader

/-! ## Values and directives -/

def readVariable : TokenReader String := do
  expect .dollar
  name

/-- A variable where only a constant may stand: always refused. -/
def refuseVariable : TokenReader Value := do
  let dollar ← current
  expect .dollar
  match (← current).lexeme with
  | .name s => reject (.variableInConstant s) dollar
  | _ => reject (.unexpected (.punctuator .dollar)) dollar

def readMember (value : TokenReader Value) : TokenReader (String × Value) := do
  let label ← name
  expect .colon
  return (label, ← value)

/-- The value that a bare word stands for. -/
def Value.ofWord : String → Value
  | "true" => .boolean true
  | "false" => .boolean false
  | "null" => .null
  | word => .enum word

def readValueWithin (constant : Bool) : Nat → TokenReader Value
  | 0 => unexpected
  | levels + 1 => do
    match (← current).lexeme with
    | .punctuator .bracketL =>
      return .list (← any .bracketL (readValueWithin constant levels) .bracketR)
    | .punctuator .braceL =>
      return .object (← any .braceL (readMember (readValueWithin constant levels)) .braceR)
    | .punctuator .dollar =>
      if constant then refuseVariable else return .variable (← readVariable)
    | .int digits => advance; return .int digits
    | .float digits => advance; return .float digits
    | .string text => advance; return .string ⟨text, false⟩
    | .blockString text => advance; return .string ⟨text, true⟩
    | .name word => advance; return .ofWord word
    | _ => unexpected

def readValue (constant : Bool) : TokenReader Value := bounded (readValueWithin constant)

def readArgument (constant : Bool) : TokenReader ValueArgument := do
  let label ← name
  expect .colon
  let site := (← current).start
  return ⟨label, ← readValue constant, site⟩

def readArguments (constant : Bool) : TokenReader (List ValueArgument) :=
  optionalMany .parenL (readArgument constant) .parenR

def readDirective (constant : Bool) : TokenReader Directive := do
  let site := (← current).start
  expect .atSign
  let label ← name
  return ⟨label, ← readArguments constant, site⟩

def readDirectives (constant : Bool) : TokenReader (List Directive) :=
  bounded (itemsWhile .atSign (readDirective constant))

/-! ## Types -/

def readTypeWithin : Nat → TokenReader TypeExpr
  | 0 => unexpected
  | levels + 1 => do
    let base ←
      if ← skip? .bracketL then
        let item ← readTypeWithin levels
        expect .bracketR
        pure (.list item)
      else
        pure (.named (← name))
    if ← skip? .bang then return .nonNull base else return base

def readType : TokenReader TypeExpr := bounded readTypeWithin

/-! ## Operations and fragments -/

def readDefault : TokenReader (Option Value) := do
  if ← skip? .equals then return some (← readValue true) else return none

def readVariableDefinition : TokenReader VariableDefinition := do
  let label ← readVariable
  expect .colon
  let type ← readType
  let defaultValue ← readDefault
  return ⟨label, type, defaultValue, ← readDirectives true⟩

/-- The name of a fragment: any name but the word that introduces its type. -/
def readFragmentName : TokenReader String := do
  if (← current).lexeme.text? = some "on" then unexpected else name

def readField (selections : TokenReader (List Selection)) : TokenReader Selection := do
  let first ← name
  let (label, fieldName) ← if ← skip? .colon then pure (some first, ← name) else pure (none, first)
  let arguments ← readArguments false
  let directives ← readDirectives false
  let inner ← if ← isAt .braceL then selections else pure []
  return .field label fieldName arguments directives inner

def readSpread (selections : TokenReader (List Selection)) : TokenReader Selection := do
  expect .spread
  if ← skipKeyword? "on" then
    let typeName ← name
    let directives ← readDirectives false
    return .inline (some typeName) directives (← selections)
  else match (← current).lexeme with
    | .name _ =>
      let fragment ← readFragmentName
      return .spread fragment (← readDirectives false)
    | _ =>
      let directives ← readDirectives false
      return .inline none directives (← selections)

def readSelectionWithin : Nat → TokenReader Selection
  | 0 => unexpected
  | levels + 1 => do
    let inner := many .braceL (readSelectionWithin levels) .braceR
    if ← isAt .spread then readSpread inner else readField inner

def readSelections : TokenReader (List Selection) :=
  many .braceL (bounded readSelectionWithin) .braceR

def readOperationKind : TokenReader OperationKind := do
  let t ← current
  let word ← name
  match OperationKind.ofKeyword? word with
  | some kind => return kind
  | none => reject (.unexpected t.lexeme) t

def readOperation : TokenReader Operation := do
  if ← isAt .braceL then return ⟨.query, none, [], [], ← readSelections⟩
  else
    let kind ← readOperationKind
    let label ← match (← current).lexeme with
      | .name _ => some <$> name
      | _ => pure none
    let declared ← optionalMany .parenL readVariableDefinition .parenR
    let directives ← readDirectives false
    return ⟨kind, label, declared, directives, ← readSelections⟩

def readFragment : TokenReader Fragment := do
  expectKeyword "fragment"
  let label ← readFragmentName
  expectKeyword "on"
  let typeName ← name
  let directives ← readDirectives false
  return ⟨label, typeName, directives, ← readSelections⟩

/-! ## Schema definitions -/

def readDescription : TokenReader (Option StringLiteral) := do
  match (← current).lexeme with
  | .string text => advance; return some ⟨text, false⟩
  | .blockString text => advance; return some ⟨text, true⟩
  | _ => return none

def readInputDefinition : TokenReader InputDefinition := do
  let description ← readDescription
  let label ← name
  expect .colon
  let type ← readType
  let defaultValue ← readDefault
  return ⟨description, label, type, defaultValue, ← readDirectives true⟩

def readArgumentDefinitions : TokenReader (List InputDefinition) :=
  optionalMany .parenL readInputDefinition .parenR

def readFieldDefinition : TokenReader FieldDefinition := do
  let description ← readDescription
  let label ← name
  let arguments ← readArgumentDefinitions
  expect .colon
  let type ← readType
  return ⟨description, label, arguments, type, ← readDirectives true⟩

def readEnumValueDefinition : TokenReader EnumValueDefinition := do
  let description ← readDescription
  let t ← current
  if t.lexeme.text? ∈ [some "true", some "false", some "null"] then
    reject (.reservedEnumValue t.lexeme) t
  else
    let label ← name
    return ⟨description, label, ← readDirectives true⟩

def readInterfaces : TokenReader (List String) := do
  if ← skipKeyword? "implements" then delimited .amp name else return []

def readMembers : TokenReader (List String) := do
  if ← skip? .equals then delimited .pipe name else return []

def readFields : TokenReader (List FieldDefinition) :=
  optionalMany .braceL readFieldDefinition .braceR

/-- What follows the name of a type, by the keyword in front of it. -/
def readTypeBody (keyword : String) : TokenReader (List Directive × TypeBody) := do
  match keyword with
  | "type" =>
    let interfaces ← readInterfaces
    let directives ← readDirectives true
    return (directives, .object interfaces (← readFields))
  | "interface" =>
    let interfaces ← readInterfaces
    let directives ← readDirectives true
    return (directives, .interface interfaces (← readFields))
  | "union" =>
    let directives ← readDirectives true
    return (directives, .union (← readMembers))
  | "enum" =>
    let directives ← readDirectives true
    return (directives, .enum (← optionalMany .braceL readEnumValueDefinition .braceR))
  | "input" =>
    let directives ← readDirectives true
    return (directives, .input (← optionalMany .braceL readInputDefinition .braceR))
  | _ =>
    let directives ← readDirectives true
    return (directives, .scalar)

def typeKeywords : List String := ["scalar", "type", "interface", "union", "enum", "input"]

def readTypeDefinition (keyword : String) : TokenReader TypeDefinition := do
  let description ← readDescription
  expectKeyword keyword
  let label ← name
  let (directives, body) ← readTypeBody keyword
  return ⟨false, description, label, directives, body⟩

def TypeBody.isEmpty : TypeBody → Bool
  | .scalar => true
  | .object interfaces fields | .interface interfaces fields =>
    interfaces.isEmpty && fields.isEmpty
  | .union members => members.isEmpty
  | .enum values => values.isEmpty
  | .input fields => fields.isEmpty

/-- An extension has to add something. -/
def readTypeExtension (keyword : String) : TokenReader TypeDefinition := do
  expectKeyword "extend"
  expectKeyword keyword
  let label ← name
  let (directives, body) ← readTypeBody keyword
  if directives.isEmpty && body.isEmpty then unexpected
  else return ⟨true, none, label, directives, body⟩

def readRoot : TokenReader (OperationKind × String) := do
  let kind ← readOperationKind
  expect .colon
  return (kind, ← name)

def readSchemaDefinition : TokenReader SchemaDefinition := do
  let description ← readDescription
  expectKeyword "schema"
  let directives ← readDirectives true
  return ⟨false, description, directives, ← many .braceL readRoot .braceR⟩

def readSchemaExtension : TokenReader SchemaDefinition := do
  expectKeyword "extend"
  expectKeyword "schema"
  let directives ← readDirectives true
  let roots ← optionalMany .braceL readRoot .braceR
  if directives.isEmpty && roots.isEmpty then unexpected
  else return ⟨true, none, directives, roots⟩

def readDirectiveLocation : TokenReader DirectiveLocation := do
  let t ← current
  let word ← name
  match DirectiveLocation.ofKeyword? word with
  | some location => return location
  | none => reject (.unexpected t.lexeme) t

def readDirectiveDefinition : TokenReader DirectiveDefinition := do
  let description ← readDescription
  expectKeyword "directive"
  expect .atSign
  let label ← name
  let arguments ← readArgumentDefinitions
  let repeatable ← skipKeyword? "repeatable"
  expectKeyword "on"
  return ⟨description, label, arguments, repeatable, ← delimited .pipe readDirectiveLocation⟩

def readExtension : TokenReader Definition := do
  let t ← lookahead
  match t.lexeme with
  | .name "schema" => return .schema (← readSchemaExtension)
  | .name word =>
    if word ∈ typeKeywords then return .type (← readTypeExtension word)
    else reject (.unexpected t.lexeme) t
  | found => reject (.unexpected found) t

/-! ## Documents -/

def Lexeme.isString : Lexeme → Bool
  | .string _ | .blockString _ => true
  | _ => false

/-- The word that says what is defined stands behind the description, if there is one. -/
def readDefinition : TokenReader Definition := do
  let first ← current
  if first.lexeme == .punctuator .braceL then return .operation (← readOperation)
  else
    let described := first.lexeme.isString
    let t ← if described then lookahead else pure first
    match t.lexeme with
    | .name word =>
      if word = "schema" then return .schema (← readSchemaDefinition)
      else if word ∈ typeKeywords then return .type (← readTypeDefinition word)
      else if word = "directive" then return .directive (← readDirectiveDefinition)
      else if described then reject .describedOperation first
      else if word ∈ ["query", "mutation", "subscription"] then
        return .operation (← readOperation)
      else if word = "fragment" then return .fragment (← readFragment)
      else if word = "extend" then readExtension
      else reject (.unexpected t.lexeme) t
    | found => reject (.unexpected found) t

def readDefinitions : Nat → TokenReader (List Definition)
  | 0 => unexpected
  | n + 1 => do
    if (← current).lexeme == .eof then return []
    else
      let d ← readDefinition
      return d :: (← readDefinitions n)

def readDocument : TokenReader Document := do
  checkCurrent
  let first ← readDefinition
  return ⟨first :: (← bounded readDefinitions)⟩

namespace Document

def ofTokens (ts : List Token) : Except SyntaxError Document :=
  ((readDocument.run ts.length).run ts).map (·.1)

/-- The document a text means. -/
def parse (text : String) : Except SyntaxError Document :=
  ofTokens ((tokens text).map Token.unplaced)

/-- As `parse`, with places kept in the document and in the error. -/
def parsePlaced (text : String) : Except SyntaxError Document := ofTokens (tokens text)

/-- The printed form of the document that a text means. -/
def normalize (text : String) : Except SyntaxError String := (parse text).map print

end Document

end RequestBook
