import RequestBook.Decimal.Reading
import RequestBook.Definitions.Basic
import RequestBook.Json.Parser

/-!
# Default values

A literal becomes a value of a type, or is no value of it: a single value stands for a list
of one, and an input type fills in the defaults of fields that are left out. Written down
again, a value has one form, whatever the literal looked like.
-/

namespace RequestBook

/-- The types that a document can name: its own, with all extensions, and the built-in ones,
which take precedence. -/
structure Scope where
  types : List TypeDefinition

namespace Scope

def find? (s : Scope) (name : String) : Option TypeDefinition := s.types.find? (·.name = name)

end Scope

/-- The fields of every input type, as far as they can be made. -/
abbrev InputTypes := List (String × Except Defect (List InputValue))

/-! ## Reading numbers -/

def wholeNumber? (digits : String) : Option Int :=
  match Json.numberAt? digits.toList with
  | some (.ok (.int n), _) => some n
  | _ => none

def floatNumber (digits : String) : Float := (Decimal.float? digits).getD 0

/-! ## Reading literals -/

mutual

/-- A literal as it stands, without a type to go by. A whole number with too many digits is
no number. -/
def Value.untyped : Value → Json
  | .variable _ => .null
  | .int digits => ((wholeNumber? digits).map Json.int).getD (.float (0.0 / 0.0))
  | .float digits => .float (floatNumber digits)
  | .string literal => .str literal.text
  | .boolean b => .bool b
  | .null => .null
  | .enum name => .str name
  | .list items => .arr (Value.untypedItems items)
  | .object members => .obj (Json.dedupe (Value.untypedMembers members))

def Value.untypedItems : List Value → List Json
  | [] => []
  | v :: rest => v.untyped :: Value.untypedItems rest

def Value.untypedMembers : List (String × Value) → List (String × Json)
  | [] => []
  | (name, v) :: rest => (name, v.untyped) :: Value.untypedMembers rest

end

/-- Whether a whole number fits in 32 bits. -/
def fitsInt (n : Int) : Bool := -2147483648 ≤ n && n ≤ 2147483647

/-- A literal as a value of a scalar type. -/
def Value.scalar? (name : String) (v : Value) : Option Constant :=
  match name, v with
  | "Int", .int digits => ((wholeNumber? digits).filter fitsInt).map .int
  | "Float", .int digits | "Float", .float digits => some (.float (floatNumber digits))
  | "String", .string literal => some (.text literal.text)
  | "Boolean", .boolean b => some (.boolean b)
  | "ID", .string literal => some (.id literal.text)
  | "ID", .int digits => some (.id digits)
  | _, v => if name ∈ Builtin.scalars.map (·.name) then none else some (.custom v.untyped)

def Value.enumValue? (values : List EnumValueDefinition) (v : Value) : Option Constant :=
  match v with
  | .enum name => if values.any (·.name = name) then some (.enum name) else none
  | _ => none

/-- A literal that is no value of a type, or a defect met on the way. -/
abbrev Coercion (α : Type) := OptionT (Except Defect) α

/-- The fields of an input type with the values that a literal gives them or leaves to their
defaults; no value if a required one is missing. -/
def coerceFields (given : String → Option (TypeExpr → Coercion Constant)) :
    List InputValue → Coercion (List (String × Constant))
  | [] => return []
  | f :: rest => do
    match given f.name, f.defaultValue with
    | some coerce, _ =>
      let value ← coerce f.type
      return (f.name, value) :: (← coerceFields given rest)
    | none, some value => return (f.name, value) :: (← coerceFields given rest)
    | none, none => if f.type.isRequired then failure else coerceFields given rest

theorem sizeOf_value_lt {members : List (String × Value)} {name : String} {v : Value}
    (h : (name, v) ∈ members) : sizeOf v < sizeOf members := by
  have := List.sizeOf_lt_of_mem h
  simp only [Prod.mk.sizeOf_spec] at this
  omega

/-- A literal as a value of a type. -/
def Value.coerce (scope : Scope) (inputs : InputTypes) (v : Value) (type : TypeExpr) :
    Coercion Constant := do
  match v, type with
  | .null, .nonNull _ => failure
  | v, .nonNull t => v.coerce scope inputs t
  | .null, _ => return .null
  | .list items, .list t =>
    return .list (← items.attach.mapM fun ⟨item, _⟩ => item.coerce scope inputs t)
  | v, .list t => return .list [← v.coerce scope inputs t]
  | v, .named name =>
    match scope.find? name with
    | none => failure
    | some definition =>
      match definition.body with
      | .scalar => OptionT.mk (.ok (v.scalar? name))
      | .enum values => OptionT.mk (.ok (v.enumValue? values))
      | .input _ =>
        match v with
        | .object members =>
          let given := members.attach.map fun ⟨(label, member), h⟩ =>
            have := sizeOf_value_lt h
            (label, fun t => member.coerce scope inputs t)
          let fields ← OptionT.lift ((inputs.lookup name).getD (.error .endless))
          return .object (← coerceFields (given.reverse.lookup ·) fields)
        | _ => failure
      | _ => OptionT.lift (.error (.noValues name))
termination_by (sizeOf v, sizeOf type)

/-! ## Writing values -/

/-- Why a value has no literal. -/
inductive UnwritableValue where
  | notFinite (x : Float)
  | noLiteral (value : Json)

/-- The most characters of a text and the most items of a list that a message shows. -/
def shownTextLimit : Nat := 240

def shownItemLimit : Nat := 10

/-- A text that is too long with its middle left out. -/
def shortened (s : String) : String :=
  if s.length > shownTextLimit then
    let size := shownTextLimit - 3
    String.ofList (s.toList.take (size / 2)) ++ "..." ++
      String.ofList (s.toList.drop (s.length - (size - size / 2)))
  else s

/-- As `shortened`, for the texts of items. -/
def shortenedItems (items : List String) : List String :=
  if items.length > shownItemLimit then
    let size := shownItemLimit / 2
    items.take size ++ "..." :: items.drop (items.length - (size - 1))
  else items

mutual

/-- A value in a message, down to `levels` levels of lists and objects. -/
def Json.outline : (levels : Nat) → Json → String
  | 0, .arr (_ :: _) => "[...]"
  | 0, .obj (_ :: _) => "\x7b...\x7d"
  | levels, .arr items =>
    "[" ++ Text.separated ", " (shortenedItems (Json.outlineItems (levels - 1) items)) ++ "]"
  | levels, .obj members =>
    "\x7b" ++ Text.separated ", " (shortenedItems (Json.outlineMembers (levels - 1) members)) ++
      "\x7d"
  | _, .str s => shortened (Json.shownText s)
  | _, .int n => shortened (toString n)
  | _, j => j.shown

def Json.outlineItems (levels : Nat) : List Json → List String
  | [] => []
  | j :: rest => j.outline levels :: Json.outlineItems levels rest

def Json.outlineMembers (levels : Nat) : List (String × Json) → List String
  | [] => []
  | (name, j) :: rest =>
    (shortened (Json.shownText name) ++ ": " ++ j.outline levels) ::
      Json.outlineMembers levels rest

end

/-- How deep a value is shown in a message. -/
def outlineLevels : Nat := 2

def UnwritableValue.message : UnwritableValue → String
  | notFinite x => "Float cannot represent non numeric value: " ++ Json.floatText x
  | noLiteral value => "Cannot convert value to AST: " ++ value.outline outlineLevels ++ "."

/-- Doubles in default values: the fewest digits that read back, with an exponent from `1e+16`
up and below `0.0001`, and whole numbers without a point. -/
def defaultFloatFormat : Decimal.Format := ⟨-4, 16, false⟩

def defaultFloatText (x : Float) : String := defaultFloatFormat.text x

/-- Whether a text can be written as a whole number; one line break may follow it. -/
def isWholeNumber (s : String) : Bool :=
  let cs := s.toList
  let cs := if cs.getLast? = some '\n' then cs.dropLast else cs
  let cs := if cs.head? = some '-' then cs.drop 1 else cs
  cs.all Char.isDigit && !cs.isEmpty && (cs.head? ≠ some '0' || cs.length = 1)

def Json.literal? : Json → Except UnwritableValue Value
  | .null => .ok .null
  | .bool b => .ok (.boolean b)
  | .int n => .ok (.int (toString n))
  | .float x =>
    if x.isFinite then .ok (.float (defaultFloatText x)) else .error (.noLiteral (.float x))
  | .str s => .ok (.string ⟨s, false⟩)
  | j => .error (.noLiteral j)

mutual

/-- The literal that writes a value. -/
def Constant.write : Constant → Except UnwritableValue Value
  | .null => .ok .null
  | .int n => .ok (.int (toString n))
  | .float x =>
    if x.isFinite then .ok (.float (defaultFloatText x)) else .error (.notFinite x)
  | .text s => .ok (.string ⟨s, false⟩)
  | .boolean b => .ok (.boolean b)
  | .id s => .ok (if isWholeNumber s then .int s else .string ⟨s, false⟩)
  | .enum name => .ok (.enum name)
  | .list items => return .list (← Constant.writeItems items)
  | .object members => return .object (← Constant.writeMembers members)
  | .custom value => value.literal?

def Constant.writeItems : List Constant → Except UnwritableValue (List Value)
  | [] => return []
  | c :: rest => do return (← c.write) :: (← Constant.writeItems rest)

def Constant.writeMembers : List (String × Constant) →
    Except UnwritableValue (List (String × Value))
  | [] => return []
  | (name, c) :: rest => do return (name, ← c.write) :: (← Constant.writeMembers rest)

end

end RequestBook
