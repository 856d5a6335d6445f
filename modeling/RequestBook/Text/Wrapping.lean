import RequestBook.Text.Layout

/-!
# Wrapping

A text broken into lines of a given width, greedily. A line may end at a blank, or behind a
hyphen with two letters on either side of it; the blanks at a break are not written.
-/

namespace RequestBook.Text

/-- A part of a text that stays on one line, with the number of blanks in front of it. -/
structure Chunk where
  gap : Nat
  text : List Char
  deriving DecidableEq, Repr

def isLetter (c : Char) : Bool := c.isAlpha || c == '_'

/-- Whether a line may end behind the last character read: a hyphen between letters. `seen` is
what has been read, last first. -/
def endsAtHyphen (seen rest : List Char) : Bool :=
  match seen, rest with
  | '-' :: b :: a :: _, c :: d :: _ => isLetter a && isLetter b && isLetter c && isLetter d
  | _, _ => false

/-- The chunks of a text; `gap` and `seen` belong to the chunk that is being read. -/
def chunksFrom (gap : Nat) (seen : List Char) : List Char → List Chunk
  | [] => if seen.isEmpty then [] else [⟨gap, seen.reverse⟩]
  | c :: cs =>
    if c = ' ' then
      if seen.isEmpty then chunksFrom (gap + 1) [] cs
      else ⟨gap, seen.reverse⟩ :: chunksFrom 1 [] cs
    else if endsAtHyphen (c :: seen) cs then ⟨gap, (c :: seen).reverse⟩ :: chunksFrom 0 [] cs
    else chunksFrom gap (c :: seen) cs

/-- The lines of chunks, the first of which goes on from `line`. -/
def fillFrom (width : Nat) (line : List Char) : List Chunk → List (List Char)
  | [] => [line]
  | chunk :: rest =>
    if line.length + chunk.gap + chunk.text.length ≤ width then
      fillFrom width (line ++ List.replicate chunk.gap ' ' ++ chunk.text) rest
    else line :: fillFrom width chunk.text rest

/-- The lines of a text that starts without a blank. -/
def wrap (width : Nat) (text : String) : List String :=
  (fillFrom width [] (chunksFrom 0 [] text.toList)).map String.ofList

end RequestBook.Text
