import RequestBook.Entries
import RequestBook.Text.Digits
import RequestBook.Text.Layout

/-!
# Suggestions

The known names that an unknown one may have been meant for. Two names are as far apart as
the least number of insertions, deletions, substitutions and swaps of neighbours that turn
one into the other; a name is suggested if that is little compared to its length.
-/

namespace RequestBook.Text

/-- A row of the table of distances: the distances from a beginning that ends in `c` to all
beginnings of the other name. `up` is the row above, `up2` the one above that, and `before`
the character in front of `c`. -/
def distanceRow (c : Char) (before : Option Char) (left : Nat) (last : Option Char) :
    List Char → (up up2 : List Nat) → List Nat
  | d :: ds, diagonal :: above :: ups, up2 =>
    let edited := min (min (above + 1) (left + 1)) (diagonal + if c = d then 0 else 1)
    let cell :=
      match up2 with
      | x :: _ => if last = some c ∧ before = some d then min edited (x + 1) else edited
      | [] => edited
    cell :: distanceRow c before cell (some d) ds (above :: ups)
      (if last.isSome then up2.drop 1 else up2)
  | _, _, _ => []

/-- The last row of the table of distances; `size` characters have been read. -/
def distanceRows (other : List Char) (size : Nat) (before : Option Char) :
    List Char → (up up2 : List Nat) → List Nat
  | [], up, _ => up
  | c :: cs, up, up2 =>
    let row := (size + 1) :: distanceRow c before (size + 1) none other up up2
    distanceRows other (size + 1) (some c) cs row up

/-- The least number of edits that turn one text into the other. -/
def distance (a b : List Char) : Nat :=
  (distanceRows b 0 none a (List.range (b.length + 1)) []).getLastD 0

/-- As `distance`, with any change of case as a single edit. -/
def nameDistance (a b : String) : Nat :=
  if a = b then 0
  else if a.toLower = b.toLower then 1
  else distance a.toLower.toList b.toLower.toList

/-- A run of digits, which sorts by its number, or the text between two such runs. -/
inductive NamePart where
  | text (s : String)
  | number (n : Nat) (digits : String)
  deriving DecidableEq

/-- Texts and numbers in turn, beginning and ending with a text. -/
def nameParts (seen digits : List Char) : List Char → List NamePart
  | [] =>
    if digits.isEmpty then [.text (String.ofList seen.reverse)]
    else [.text (String.ofList seen.reverse), number digits, .text ""]
  | c :: cs =>
    if c.isDigit then nameParts seen (c :: digits) cs
    else if digits.isEmpty then nameParts (c :: seen) [] cs
    else .text (String.ofList seen.reverse) :: number digits :: nameParts [c] [] cs
where
  number (digits : List Char) : NamePart :=
    let s := String.ofList digits.reverse
    .number (s.toNat?.getD 0) s

def NamePart.before : NamePart → NamePart → Bool
  | text a, text b => a < b
  | number m a, number n b => m < n || (m == n && a < b)
  | text _, number .. => true
  | number .., text _ => false

def partsBefore : List NamePart → List NamePart → Bool
  | _, [] => false
  | [], _ :: _ => true
  | a :: as, b :: bs => a.before b || (a == b && partsBefore as bs)

/-- The number of digits of a number that is not read. -/
def NamePart.excess? : NamePart → Option Nat
  | number _ digits => if digits.length > digitLimit then some digits.length else none
  | text _ => none

/-- The options near to a name, the nearest first and among equals in natural order. If a number
in them is too long to be read, there are none, but the count of its digits. -/
def suggestions (name : String) (options : List String) : Except Nat (List String) :=
  let threshold := name.length * 2 / 5 + 1
  let near := (options.eraseDups.map fun o => (nameDistance name o, o)).filter (·.1 ≤ threshold)
  let parted := near.map fun (n, o) => (n, nameParts [] [] o.toList, o)
  match parted.findSome? fun (_, parts, _) => parts.findSome? NamePart.excess? with
  | some digits => .error digits
  | none =>
    let notAfter := fun (m, as, _) (n, bs, _) => m < n || (m == n && !partsBefore bs as)
    .ok ((parted.mergeSort notAfter).map fun (_, _, o) => o)

/-- The most options that are suggested at once. -/
def suggestionLimit : Nat := 5

/-- A question after the message of an error, if there is anything to suggest. -/
def didYouMean (names : List String) : String :=
  match (names.take suggestionLimit).map fun n => "'" ++ n ++ "'" with
  | [] => ""
  | [a] => " Did you mean " ++ a ++ "?"
  | [a, b] => " Did you mean " ++ a ++ " or " ++ b ++ "?"
  | many =>
    " Did you mean " ++ separated ", " many.dropLast ++ ", or " ++ many.getLastD "" ++ "?"

end RequestBook.Text
