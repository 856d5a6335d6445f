import RequestBook.Document.Basic
import RequestBook.Text.Layout
import RequestBook.Token.BlockText

/-!
# Printing documents

Every document has one printed form: two blanks per level, one selection or definition
per line, and the arguments of a field on one line unless that line grows too long.
-/

namespace RequestBook

open Text

/-- The longest a field may get before its arguments move to lines of their own. -/
def lineLimit : Nat := 80

namespace StringLiteral

/-- A character as it stands between single quotes. -/
def escapedChar (c : Char) : String :=
  match c with
  | '"' => "\\\""
  | '\\' => "\\\\"
  | '\x08' => "\\b"
  | '\x0c' => "\\f"
  | '\n' => "\\n"
  | '\r' => "\\r"
  | '\t' => "\\t"
  | c =>
    if c.toNat < 0x20 ∨ (0x7f ≤ c.toNat ∧ c.toNat ≤ 0x9f) then "\\u" ++ hexDigits true 4 c.toNat
    else c.toString

def quoted (text : String) : String :=
  "\"" ++ String.join (text.toList.map escapedChar) ++ "\""

def print (s : StringLiteral) : String :=
  if s.block then BlockText.print s.text else quoted s.text

end StringLiteral

mutual

def Value.print : Value → String
  | .variable name => "$" ++ name
  | .int digits => digits
  | .float digits => digits
  | .string literal => literal.print
  | .boolean b => if b then "true" else "false"
  | .null => "null"
  | .enum name => name
  | .list items => "[" ++ separated ", " (Value.printItems items) ++ "]"
  | .object members => "\x7b" ++ separated ", " (Value.printMembers members) ++ "\x7d"

def Value.printItems : List Value → List String
  | [] => []
  | v :: vs => v.print :: Value.printItems vs

def Value.printMembers : List (String × Value) → List String
  | [] => []
  | (name, v) :: rest => (name ++ ": " ++ v.print) :: Value.printMembers rest

end

def TypeExpr.print : TypeExpr → String
  | .named name => name
  | .list item => "[" ++ item.print ++ "]"
  | .nonNull item => item.print ++ "!"

def ValueArgument.print (a : ValueArgument) : String := a.name ++ ": " ++ a.value.print

def Directive.print (d : Directive) : String :=
  "@" ++ d.name ++ wrapped "(" (joined ", " (d.arguments.map ValueArgument.print)) ")"

def printDirectives (ds : List Directive) : String := joined " " (ds.map Directive.print)

def printDefault (value : Option Value) : String :=
  wrapped " = " ((value.map Value.print).getD "") ""

def VariableDefinition.print (v : VariableDefinition) : String :=
  "$" ++ v.name ++ ": " ++ v.type.print ++ printDefault v.defaultValue ++
    wrapped " " (printDirectives v.directives) ""

/-- A field with its arguments, on one line if that is short enough. -/
def printCall (label : Option String) (name : String) (arguments : List String) : String :=
  let before := wrapped "" (label.getD "") ": " ++ name
  let line := before ++ wrapped "(" (joined ", " arguments) ")"
  if line.length > lineLimit then
    before ++ wrapped "(\n" (indented (joined "\n" arguments)) "\n)"
  else line

mutual

def Selection.print : Selection → String
  | .field label name arguments directives selections =>
    joined " " [printCall label name (arguments.map ValueArgument.print),
      printDirectives directives, block (Selection.printAll selections)]
  | .spread name directives => "..." ++ name ++ wrapped " " (printDirectives directives) ""
  | .inline typeName directives selections =>
    joined " " ["...", wrapped "on " (typeName.getD "") "", printDirectives directives,
      block (Selection.printAll selections)]

def Selection.printAll : List Selection → List String
  | [] => []
  | s :: rest => s.print :: Selection.printAll rest

end

def Operation.print (o : Operation) : String :=
  let declared := wrapped "(" (joined ", " (o.declared.map VariableDefinition.print)) ")"
  let head := joined " "
    [o.kind.keyword, o.name.getD "" ++ declared, printDirectives o.directives]
  (if head = "query" then "" else head ++ " ") ++ block (Selection.printAll o.selections)

def Fragment.print (f : Fragment) : String :=
  "fragment " ++ f.name ++ " on " ++ f.typeName ++ " " ++
    wrapped "" (printDirectives f.directives) " " ++ block (Selection.printAll f.selections)

def printDescription (description : Option StringLiteral) : String :=
  wrapped "" ((description.map StringLiteral.print).getD "") "\n"

def InputDefinition.print (d : InputDefinition) : String :=
  printDescription d.description ++
    joined " " [d.name ++ ": " ++ d.type.print,
      wrapped "= " ((d.defaultValue.map Value.print).getD "") "", printDirectives d.directives]

/-- Argument definitions on one line, or one per line if one of them needs several. -/
def printArgumentDefinitions (arguments : List InputDefinition) : String :=
  let parts := arguments.map InputDefinition.print
  if parts.any (·.contains '\n') then wrapped "(\n" (indented (joined "\n" parts)) "\n)"
  else wrapped "(" (joined ", " parts) ")"

def FieldDefinition.print (d : FieldDefinition) : String :=
  printDescription d.description ++ d.name ++ printArgumentDefinitions d.arguments ++ ": " ++
    d.type.print ++ wrapped " " (printDirectives d.directives) ""

def EnumValueDefinition.print (d : EnumValueDefinition) : String :=
  printDescription d.description ++ joined " " [d.name, printDirectives d.directives]

def TypeBody.keyword : TypeBody → String
  | .scalar => "scalar"
  | .object .. => "type"
  | .interface .. => "interface"
  | .union _ => "union"
  | .enum _ => "enum"
  | .input _ => "input"

def printInterfaces (names : List String) : String :=
  wrapped "implements " (joined " & " names) ""

/-- The pieces of a type definition after its name. -/
def TypeBody.print (directives : String) : TypeBody → List String
  | .scalar => [directives]
  | .object interfaces fields | .interface interfaces fields =>
    [printInterfaces interfaces, directives, block (fields.map FieldDefinition.print)]
  | .union members => [directives, wrapped "= " (joined " | " members) ""]
  | .enum values => [directives, block (values.map EnumValueDefinition.print)]
  | .input fields => [directives, block (fields.map InputDefinition.print)]

def TypeDefinition.print (d : TypeDefinition) : String :=
  let keyword := (if d.extending then "extend " else "") ++ d.body.keyword
  printDescription d.description ++
    joined " " (keyword :: d.name :: d.body.print (printDirectives d.directives))

def SchemaDefinition.print (d : SchemaDefinition) : String :=
  let roots := d.roots.map fun (kind, name) => kind.keyword ++ ": " ++ name
  printDescription d.description ++
    joined " " [if d.extending then "extend schema" else "schema", printDirectives d.directives,
      block roots]

def DirectiveDefinition.print (d : DirectiveDefinition) : String :=
  printDescription d.description ++ "directive @" ++ d.name ++
    printArgumentDefinitions d.arguments ++ (if d.repeatable then " repeatable" else "") ++
    " on " ++ joined " | " (d.locations.map DirectiveLocation.keyword)

def Definition.print : Definition → String
  | .operation o => o.print
  | .fragment f => f.print
  | .schema s => s.print
  | .type t => t.print
  | .directive d => d.print

def Document.print (d : Document) : String :=
  joined "\n\n" (d.definitions.map Definition.print)

end RequestBook
