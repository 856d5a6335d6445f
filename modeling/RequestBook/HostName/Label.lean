import RequestBook.HostName.Direction
import RequestBook.HostName.Letters
import RequestBook.Text.Composition
import RequestBook.Text.Layout
import RequestBook.Text.Pieces
import RequestBook.Text.Punycode

/-!
# Labels of host names

A host name is a row of labels with dots between them. A name with characters beyond ASCII is
written in ASCII, and then all its labels have to follow the rules for labels in all scripts,
those included that stand for others already.
-/

namespace RequestBook.HostName

/-- The most characters of a label in ASCII. -/
def labelLimit : Nat := 63

/-- The most characters of a name in ASCII, a dot at its end aside. -/
def nameLimit : Nat := 253

/-- Whether the hyphens of a label are neither at its ends nor where they are part of a mark. -/
def areHyphensFree (label : List Char) : Bool :=
  label.head? ≠ some '-' && label.getLast? ≠ some '-' && (label.drop 2).take 2 ≠ ['-', '-']

/-- What is wrong with a text that is no label. A label is composed, its hyphens are free, it
does not start with a mark, and its characters are admitted and go together. -/
def labelFault? (label : List Char) : Option LabelFault :=
  if label.isEmpty || label.length > nameLimit + 1 || !Text.isComposed label ||
    !areHyphensFree label || (label.head?.map Text.isMark).getD false then some .form
  else (characterFault? [] label).or (if isDirected label then none else some .direction)

/-- Whether a text behind the mark starts with the hyphen that ends the ASCII characters, so that
there are none. A label without them is written without that hyphen. -/
def startsAtDigits (cs : List Char) : Bool := cs.head? = some '-' && !(cs.drop 1).contains '-'

/-- What is wrong with a text in ASCII that neither is a label nor stands for one. -/
def asciiLabelFault? (label : List Char) : Option LabelFault :=
  if Text.Punycode.mark.isPrefixOf label then
    let rest := label.drop Text.Punycode.mark.length
    if rest.isEmpty || rest.getLast? = some '-' || startsAtDigits rest then some .form
    else
      match Text.Punycode.decode? rest with
      | none => some .form
      | some meant => labelFault? meant
  else labelFault? label

/-- A label in ASCII, if it is one in any script. -/
def encodeLabel? (label : List Char) : Option (List Char) := do
  let isAscii := label.all (·.toNat < 128)
  guard (if isAscii then asciiLabelFault? label else labelFault? label).isNone
  let encoded := Text.Punycode.encodeLabel label
  guard (encoded.length ≤ labelLimit)
  return encoded

/-- The dots of all scripts. -/
def isDot (c : Char) : Bool := c == '.' || c == '\u3002' || c == '\uff0e' || c == '\uff61'

/-- The labels of a name, and whether a dot ends it. -/
def labels (name : List Char) : List (List Char) × Bool :=
  let labels := Text.pieces '.' name
  if labels.getLast? = some [] then (labels.dropLast, true) else (labels, false)

/-- A name with characters beyond ASCII, in ASCII. -/
def encode? (name : List Char) : Option (List Char) := do
  let (labels, endsInDot) := labels ((Text.lower name).map fun c => if isDot c then '.' else c)
  let encoded ← labels.mapM encodeLabel?
  let name := (Text.separated "." (encoded.map String.ofList)).toList
  guard (name.length ≤ nameLimit)
  return if endsInDot then name ++ ['.'] else name

/-- What is wrong with the first label of a name in ASCII that cannot be read. -/
def readingFault? (name : List Char) : Option LabelFault :=
  if name.length > nameLimit + 1 then some .form
  else (labels name).1.findSome? asciiLabelFault?

end RequestBook.HostName
