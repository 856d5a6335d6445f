import RequestBook.Json.Basic
import RequestBook.Text.Layout
import RequestBook.Text.Printable

/-!
# Values in messages

How a JSON value is shown to the user: texts in quotes and escaped, everything else in
one fixed spelling, members and items in the order of the document.
-/

namespace RequestBook

namespace Json

/-- What messages call the type of a value. -/
def typeName : Json → String
  | null => "NoneType"
  | bool _ => "bool"
  | int _ => "int"
  | float _ => "float"
  | str _ => "str"
  | arr _ => "list"
  | obj _ => "dict"

/-- Doubles in messages and files: the fewest digits that read back, with an exponent from
`1e+16` up and below `0.0001`, and whole numbers ending in `.0`. -/
def floatFormat : Decimal.Format := ⟨-4, 16, true⟩

def floatText (x : Float) : String := floatFormat.text x

/-- A character between quotes. -/
def shownChar (quote c : Char) : String :=
  if c = quote ∨ c = '\\' then "\\" ++ c.toString
  else match c with
    | '\n' => "\\n"
    | '\r' => "\\r"
    | '\t' => "\\t"
    | c =>
      if Text.isPrintable c then c.toString
      else if c.toNat < 0x100 then "\\x" ++ Text.hexDigits false 2 c.toNat
      else if c.toNat < 0x10000 then "\\u" ++ Text.hexDigits false 4 c.toNat
      else "\\U" ++ Text.hexDigits false 8 c.toNat

/-- A text in single quotes, or in double ones if it holds single quotes only. -/
def shownText (s : String) : String :=
  let quote := if s.contains '\'' && !s.contains '"' then '"' else '\''
  quote.toString ++ String.join (s.toList.map (shownChar quote)) ++ quote.toString

mutual

def shown : Json → String
  | null => "None"
  | bool b => if b then "True" else "False"
  | int n => toString n
  | float x => floatText x
  | str s => shownText s
  | arr items => "[" ++ Text.separated ", " (shownItems items) ++ "]"
  | obj members => "\x7b" ++ Text.separated ", " (shownMembers members) ++ "\x7d"

def shownItems : List Json → List String
  | [] => []
  | j :: rest => j.shown :: shownItems rest

def shownMembers : List (String × Json) → List String
  | [] => []
  | (name, j) :: rest => (shownText name ++ ": " ++ j.shown) :: shownMembers rest

end

/-- As `shown`, but a text stands for itself. -/
def plain : Json → String
  | str s => s
  | j => j.shown

end Json

end RequestBook
