import RequestBook.Json.Display
import RequestBook.Text.Digits

/-!
# Writing JSON

JSON text in ASCII: other characters are written as escapes of their UTF-16 units. A
collection is written with one member or item per line, indented by tabs. An integer with more
digits than are read is not written.
-/

namespace RequestBook

namespace Json

def unitEscape (n : Nat) : String := "\\u" ++ Text.hexDigits false 4 n

def escapedChar (c : Char) : String :=
  match c with
  | '"' => "\\\""
  | '\\' => "\\\\"
  | '\n' => "\\n"
  | '\r' => "\\r"
  | '\t' => "\\t"
  | '\x08' => "\\b"
  | '\x0c' => "\\f"
  | c =>
    let n := c.toNat
    if 0x20 ≤ n ∧ n < 0x7f then c.toString
    else if n < 0x10000 then unitEscape n
    else
      let rest := n - 0x10000
      unitEscape (0xd800 + rest / 0x400) ++ unitEscape (0xdc00 + rest % 0x400)

def quoted (s : String) : String := "\"" ++ String.join (s.toList.map escapedChar) ++ "\""

def numberText (x : Float) : String :=
  if x.isNaN then "NaN"
  else if x.isInf then (if x < 0 then "-Infinity" else "Infinity")
  else floatText x

/-- Items between brackets: on one line, or each on a line of its own under `margin`. -/
def bracketed (opening closing : String) (margin : Option Nat) (parts : List String) : String :=
  if parts.isEmpty then opening ++ closing
  else match margin with
    | none => opening ++ Text.separated ", " parts ++ closing
    | some depth =>
      let tabs := fun n => String.ofList (List.replicate n '\t')
      let line := "\n" ++ tabs (depth + 1)
      opening ++ line ++ Text.separated ("," ++ line) parts ++ "\n" ++ tabs depth ++ closing

mutual

/-- The text of a value. With a `margin`, which is the depth of the value, every item and
member stands on its own line. -/
def write (margin : Option Nat) : Json → String
  | null => "null"
  | bool b => if b then "true" else "false"
  | int n => toString n
  | float x => numberText x
  | str s => quoted s
  | arr items => bracketed "[" "]" margin (writeItems (margin.map (· + 1)) items)
  | obj members => bracketed "\x7b" "\x7d" margin (writeMembers (margin.map (· + 1)) members)

def writeItems (margin : Option Nat) : List Json → List String
  | [] => []
  | j :: rest => write margin j :: writeItems margin rest

def writeMembers (margin : Option Nat) : List (String × Json) → List String
  | [] => []
  | (name, j) :: rest => (quoted name ++ ": " ++ write margin j) :: writeMembers margin rest

end

mutual

/-- Whether all integers of a value have few enough digits to be written. -/
def isWritable : Json → Bool
  | int n => (Nat.toDigits 10 n.natAbs).length ≤ Text.digitLimit
  | arr items => areWritable items
  | obj members => hasWritableMembers members
  | _ => true

def areWritable : List Json → Bool
  | [] => true
  | j :: rest => isWritable j && areWritable rest

def hasWritableMembers : List (String × Json) → Bool
  | [] => true
  | (_, j) :: rest => isWritable j && hasWritableMembers rest

end

/-- One value on one line. -/
def compact (j : Json) : String := j.write none

/-- One value over several lines, indented by tabs. -/
def tabbed (j : Json) : String := j.write (some 0)

end Json

end RequestBook
