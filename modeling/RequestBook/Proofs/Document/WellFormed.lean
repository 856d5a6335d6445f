import RequestBook.Proofs.Document.TypeExpr
import RequestBook.Proofs.Token.Printable
import RequestBook.Proofs.Token.Stopping

/-!
# Well-formed documents

The lexemes that a document is written with, in the one order that its printed form has them, and
what the parts of a document have to be for these lexemes to mean the document again: names where
names stand, numbers and strings that can be written, no word where it would be taken for something
else, and at least one member where the grammar asks for one.
-/

namespace RequestBook

/-! ## Values and directives -/

def StringLiteral.lexeme (s : StringLiteral) : Lexeme :=
  if s.block then .blockString s.text else .string s.text

mutual

def Value.lexemes : Value → List Lexeme
  | .variable name => [.punctuator .dollar, .name name]
  | .int digits => [.int digits]
  | .float digits => [.float digits]
  | .string literal => [literal.lexeme]
  | .boolean b => [.name (if b then "true" else "false")]
  | .null => [.name "null"]
  | .enum name => [.name name]
  | .list items => .punctuator .bracketL :: (Value.itemLexemes items ++ [.punctuator .bracketR])
  | .object members => .punctuator .braceL :: (Value.memberLexemes members ++ [.punctuator .braceR])

def Value.itemLexemes : List Value → List Lexeme
  | [] => []
  | v :: vs => v.lexemes ++ Value.itemLexemes vs

def Value.memberLexemes : List (String × Value) → List Lexeme
  | [] => []
  | (name, v) :: rest => .name name :: .punctuator .colon :: v.lexemes ++ Value.memberLexemes rest

end

inductive Value.WellFormed (constant : Bool) : Value → Prop
  | variable {name : String} (hconstant : constant = false) (hname : isName name.toList = true) :
      WellFormed constant (.variable name)
  | int {digits : String} (h : (Lexeme.int digits).Printable) : WellFormed constant (.int digits)
  | float {digits : String} (h : (Lexeme.float digits).Printable) :
      WellFormed constant (.float digits)
  | string {literal : StringLiteral} (h : literal.lexeme.Printable) :
      WellFormed constant (.string literal)
  | boolean (b : Bool) : WellFormed constant (.boolean b)
  | null : WellFormed constant .null
  | enum {name : String} (hname : isName name.toList = true)
      (hword : Value.ofWord name = .enum name) : WellFormed constant (.enum name)
  | list {items : List Value} (h : ∀ v ∈ items, WellFormed constant v) :
      WellFormed constant (.list items)
  | object {members : List (String × Value)} (hnames : ∀ m ∈ members, isName m.1.toList = true)
      (h : ∀ m ∈ members, WellFormed constant m.2) : WellFormed constant (.object members)

namespace ValueArgument

def lexemes (a : ValueArgument) : List Lexeme :=
  .name a.name :: .punctuator .colon :: a.value.lexemes

structure WellFormed (constant : Bool) (a : ValueArgument) : Prop where
  name : isName a.name.toList = true
  value : a.value.WellFormed constant
  site : a.site = none

end ValueArgument

namespace Directive

def lexemes (d : Directive) : List Lexeme :=
  .punctuator .atSign :: .name d.name ::
    enclosed .parenL .parenR (d.arguments.flatMap ValueArgument.lexemes)

structure WellFormed (constant : Bool) (d : Directive) : Prop where
  name : isName d.name.toList = true
  arguments : ∀ a ∈ d.arguments, a.WellFormed constant
  site : d.site = none

end Directive

/-! ## Operations and fragments -/

def TypeExpr.WellFormed (t : TypeExpr) : Prop := isName t.leaf.toList = true ∧ ¬ t.Doubled

def defaultLexemes : Option Value → List Lexeme
  | none => []
  | some v => .punctuator .equals :: v.lexemes

namespace VariableDefinition

def lexemes (v : VariableDefinition) : List Lexeme :=
  .punctuator .dollar :: .name v.name :: .punctuator .colon ::
    (v.type.lexemes ++ (defaultLexemes v.defaultValue ++ v.directives.flatMap Directive.lexemes))

structure WellFormed (v : VariableDefinition) : Prop where
  name : isName v.name.toList = true
  type : v.type.WellFormed
  defaultValue : ∀ x ∈ v.defaultValue, x.WellFormed true
  directives : ∀ d ∈ v.directives, d.WellFormed true

end VariableDefinition

/-- The other name that the result of a field is to have. -/
def labelLexemes : Option String → List Lexeme
  | none => []
  | some s => [.name s, .punctuator .colon]

/-- The type that selections are limited to. -/
def conditionLexemes : Option String → List Lexeme
  | none => []
  | some s => [.name "on", .name s]

mutual

def Selection.lexemes : Selection → List Lexeme
  | .field label name arguments directives selections =>
    labelLexemes label ++ .name name ::
      (enclosed .parenL .parenR (arguments.flatMap ValueArgument.lexemes) ++
        (directives.flatMap Directive.lexemes ++
          enclosed .braceL .braceR (Selection.allLexemes selections)))
  | .spread name directives =>
    .punctuator .spread :: .name name :: directives.flatMap Directive.lexemes
  | .inline typeName directives selections =>
    .punctuator .spread :: (conditionLexemes typeName ++
      (directives.flatMap Directive.lexemes ++
        enclosed .braceL .braceR (Selection.allLexemes selections)))

def Selection.allLexemes : List Selection → List Lexeme
  | [] => []
  | s :: rest => s.lexemes ++ Selection.allLexemes rest

end

inductive Selection.WellFormed : Selection → Prop
  | field {label : Option String} {name : String} {arguments : List ValueArgument}
      {directives : List Directive} {selections : List Selection}
      (hlabel : ∀ s ∈ label, isName s.toList = true) (hname : isName name.toList = true)
      (harguments : ∀ a ∈ arguments, a.WellFormed false)
      (hdirectives : ∀ d ∈ directives, d.WellFormed false)
      (hselections : ∀ s ∈ selections, WellFormed s) :
      WellFormed (.field label name arguments directives selections)
  | spread {name : String} {directives : List Directive} (hname : isName name.toList = true)
      (hon : name ≠ "on") (hdirectives : ∀ d ∈ directives, d.WellFormed false) :
      WellFormed (.spread name directives)
  | inline {typeName : Option String} {directives : List Directive} {selections : List Selection}
      (htype : ∀ s ∈ typeName, isName s.toList = true)
      (hdirectives : ∀ d ∈ directives, d.WellFormed false) (hne : selections ≠ [])
      (hselections : ∀ s ∈ selections, WellFormed s) :
      WellFormed (.inline typeName directives selections)

namespace Operation

/-- Whether nothing but the selections of a query is there, and only they are printed. -/
def isBare (o : Operation) : Bool :=
  o.kind = .query && o.name.isNone && o.declared.isEmpty && o.directives.isEmpty

/-- The lexemes in front of the selections. -/
def headLexemes (o : Operation) : List Lexeme :=
  .name o.kind.keyword :: (o.name.toList.map Lexeme.name ++
    (enclosed .parenL .parenR (o.declared.flatMap VariableDefinition.lexemes) ++
      o.directives.flatMap Directive.lexemes))

def lexemes (o : Operation) : List Lexeme :=
  (if o.isBare then [] else o.headLexemes) ++
    enclosed .braceL .braceR (o.selections.flatMap Selection.lexemes)

structure WellFormed (o : Operation) : Prop where
  name : ∀ s ∈ o.name, isName s.toList = true
  declared : ∀ v ∈ o.declared, v.WellFormed
  directives : ∀ d ∈ o.directives, d.WellFormed false
  selections_ne_nil : o.selections ≠ []
  selections : ∀ s ∈ o.selections, s.WellFormed

end Operation

namespace Fragment

def lexemes (f : Fragment) : List Lexeme :=
  .name "fragment" :: .name f.name :: .name "on" :: .name f.typeName ::
    (f.directives.flatMap Directive.lexemes ++
      enclosed .braceL .braceR (f.selections.flatMap Selection.lexemes))

structure WellFormed (f : Fragment) : Prop where
  name : isName f.name.toList = true
  name_ne : f.name ≠ "on"
  typeName : isName f.typeName.toList = true
  directives : ∀ d ∈ f.directives, d.WellFormed false
  selections_ne_nil : f.selections ≠ []
  selections : ∀ s ∈ f.selections, s.WellFormed

end Fragment

/-! ## Schema definitions -/

def descriptionLexemes (description : Option StringLiteral) : List Lexeme :=
  description.toList.map StringLiteral.lexeme

/-- The description is a string that can be written. -/
def IsDescription (description : Option StringLiteral) : Prop :=
  ∀ s ∈ description, s.lexeme.Printable

namespace InputDefinition

def lexemes (d : InputDefinition) : List Lexeme :=
  descriptionLexemes d.description ++ .name d.name :: .punctuator .colon ::
    (d.type.lexemes ++ (defaultLexemes d.defaultValue ++ d.directives.flatMap Directive.lexemes))

structure WellFormed (d : InputDefinition) : Prop where
  description : IsDescription d.description
  name : isName d.name.toList = true
  type : d.type.WellFormed
  defaultValue : ∀ x ∈ d.defaultValue, x.WellFormed true
  directives : ∀ x ∈ d.directives, x.WellFormed true

end InputDefinition

namespace FieldDefinition

def lexemes (d : FieldDefinition) : List Lexeme :=
  descriptionLexemes d.description ++ .name d.name ::
    (enclosed .parenL .parenR (d.arguments.flatMap InputDefinition.lexemes) ++
      .punctuator .colon :: (d.type.lexemes ++ d.directives.flatMap Directive.lexemes))

structure WellFormed (d : FieldDefinition) : Prop where
  description : IsDescription d.description
  name : isName d.name.toList = true
  arguments : ∀ a ∈ d.arguments, a.WellFormed
  type : d.type.WellFormed
  directives : ∀ x ∈ d.directives, x.WellFormed true

end FieldDefinition

namespace EnumValueDefinition

def lexemes (d : EnumValueDefinition) : List Lexeme :=
  descriptionLexemes d.description ++ .name d.name :: d.directives.flatMap Directive.lexemes

structure WellFormed (d : EnumValueDefinition) : Prop where
  description : IsDescription d.description
  name : isName d.name.toList = true
  name_free : d.name ∉ ["true", "false", "null"]
  directives : ∀ x ∈ d.directives, x.WellFormed true

end EnumValueDefinition

def interfaceLexemes (interfaces : List String) : List Lexeme :=
  if interfaces = [] then [] else .name "implements" :: delimitedLexemes .amp interfaces

def memberLexemes (members : List String) : List Lexeme :=
  if members = [] then [] else .punctuator .equals :: delimitedLexemes .pipe members

namespace TypeBody

/-- The lexemes after the name of a type; those of its directives stand among them. -/
def lexemes (directives : List Lexeme) : TypeBody → List Lexeme
  | .scalar => directives
  | .object interfaces fields | .interface interfaces fields =>
    interfaceLexemes interfaces ++
      (directives ++ enclosed .braceL .braceR (fields.flatMap FieldDefinition.lexemes))
  | .union members => directives ++ memberLexemes members
  | .enum values =>
    directives ++ enclosed .braceL .braceR (values.flatMap EnumValueDefinition.lexemes)
  | .input fields => directives ++ enclosed .braceL .braceR (fields.flatMap InputDefinition.lexemes)

def WellFormed : TypeBody → Prop
  | .scalar => True
  | .object interfaces fields | .interface interfaces fields =>
    (∀ s ∈ interfaces, isName s.toList = true) ∧ ∀ f ∈ fields, f.WellFormed
  | .union members => ∀ s ∈ members, isName s.toList = true
  | .enum values => ∀ v ∈ values, v.WellFormed
  | .input fields => ∀ f ∈ fields, f.WellFormed

end TypeBody

def extendLexemes (extending : Bool) : List Lexeme := if extending then [.name "extend"] else []

namespace TypeDefinition

def lexemes (d : TypeDefinition) : List Lexeme :=
  descriptionLexemes d.description ++ (extendLexemes d.extending ++
    .name d.body.keyword :: .name d.name :: d.body.lexemes (d.directives.flatMap Directive.lexemes))

structure WellFormed (d : TypeDefinition) : Prop where
  description : IsDescription d.description
  name : isName d.name.toList = true
  directives : ∀ x ∈ d.directives, x.WellFormed true
  body : d.body.WellFormed
  /-- An extension has no description and is not empty. -/
  extension : d.extending = true →
    d.description = none ∧ (d.directives.isEmpty && d.body.isEmpty) = false

end TypeDefinition

def rootLexemes (root : OperationKind × String) : List Lexeme :=
  [.name root.1.keyword, .punctuator .colon, .name root.2]

namespace SchemaDefinition

def lexemes (d : SchemaDefinition) : List Lexeme :=
  descriptionLexemes d.description ++ (extendLexemes d.extending ++
    .name "schema" :: (d.directives.flatMap Directive.lexemes ++
      enclosed .braceL .braceR (d.roots.flatMap rootLexemes)))

structure WellFormed (d : SchemaDefinition) : Prop where
  description : IsDescription d.description
  directives : ∀ x ∈ d.directives, x.WellFormed true
  roots : ∀ root ∈ d.roots, isName root.2.toList = true
  /-- A definition names a root. -/
  definition : d.extending = false → d.roots ≠ []
  extension : d.extending = true →
    d.description = none ∧ (d.directives.isEmpty && d.roots.isEmpty) = false

end SchemaDefinition

namespace DirectiveDefinition

def lexemes (d : DirectiveDefinition) : List Lexeme :=
  descriptionLexemes d.description ++ .name "directive" :: .punctuator .atSign :: .name d.name ::
    (enclosed .parenL .parenR (d.arguments.flatMap InputDefinition.lexemes) ++
      ((if d.repeatable then [.name "repeatable"] else []) ++
        .name "on" :: delimitedLexemes .pipe (d.locations.map DirectiveLocation.keyword)))

structure WellFormed (d : DirectiveDefinition) : Prop where
  description : IsDescription d.description
  name : isName d.name.toList = true
  arguments : ∀ a ∈ d.arguments, a.WellFormed
  locations_ne_nil : d.locations ≠ []

end DirectiveDefinition

/-! ## Documents -/

namespace Definition

def lexemes : Definition → List Lexeme
  | .operation o => o.lexemes
  | .fragment f => f.lexemes
  | .schema s => s.lexemes
  | .type t => t.lexemes
  | .directive d => d.lexemes

def WellFormed : Definition → Prop
  | .operation o => o.WellFormed
  | .fragment f => f.WellFormed
  | .schema s => s.WellFormed
  | .type t => t.WellFormed
  | .directive d => d.WellFormed

end Definition

namespace Document

def lexemes (d : Document) : List Lexeme := d.definitions.flatMap Definition.lexemes

structure WellFormed (d : Document) : Prop where
  definitions_ne_nil : d.definitions ≠ []
  definitions : ∀ x ∈ d.definitions, x.WellFormed

end Document

end RequestBook
