import RequestBook.Decimal.Shortest
import RequestBook.Text.Blank
import RequestBook.Text.Digits

/-!
# Reading decimal numbers

The double that a number text stands for: digits with at most one point, an exponent, or a
word for infinity or for no number; a sign in front, and white space around it all, for which
information separators do not count.
-/

namespace RequestBook.Decimal

/-- A sign and what follows it; no sign is a plus. -/
def splitSign : List Char → Bool × List Char
  | '-' :: cs => (true, cs)
  | '+' :: cs => (false, cs)
  | cs => (false, cs)

/-- What an exponent of ten adds; nothing at all is an exponent of zero. -/
def exponent? : List Char → Option Int
  | [] => some 0
  | e :: cs =>
    let (negative, ds) := splitSign cs
    if (e = 'e' ∨ e = 'E') ∧ !ds.isEmpty ∧ ds.all Char.isDigit then
      let n : Int := Text.digitsValue ds
      some (if negative then -n else n)
    else none

/-- The magnitude that digits, a point and an exponent make. -/
def magnitude? (cs : List Char) : Option Float := do
  let (whole, rest) := cs.span Char.isDigit
  let (part, rest) := match rest with
    | '.' :: rest => rest.span Char.isDigit
    | rest => ([], rest)
  guard (!(whole ++ part).isEmpty)
  let exponent ← exponent? rest
  return toFloat (Text.digitsValue (whole ++ part)) (exponent - part.length)

/-- The words for what digits cannot write. -/
def wordMagnitude? (cs : List Char) : Option Float :=
  match (String.ofList cs).toLower with
  | "inf" | "infinity" => some (1.0 / 0.0)
  | "nan" => some (0.0 / 0.0)
  | _ => none

/-- The double nearest to what a text says, if it is a number text. -/
def float? (text : String) : Option Float := do
  let cs ← Text.plainNumber? (Text.trim Text.isMargin text.toList)
  let (negative, cs) := splitSign cs
  let x ← (wordMagnitude? cs).or (magnitude? cs)
  return if negative then -x else x

end RequestBook.Decimal
