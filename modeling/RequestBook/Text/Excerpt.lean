import RequestBook.Text.Layout
import RequestBook.Text.Lines

/-!
# Excerpts

The part of a text around one of its characters, for the reader of an error message: the
lines before and after, their numbers, and a mark under the column.
-/

namespace RequestBook.Text

/-- Line and column of a character, both counted from one. -/
structure Place where
  line : Nat
  column : Nat
  deriving DecidableEq, Repr

/-- The place behind the last character before `index`: a character that starts a line is
placed at the end of the line above. -/
def Place.of (text : List Char) (index : Nat) : Place :=
  let lines := textLines (text.take index)
  match lines.getLast? with
  | some line => ⟨lines.length, line.length + 1⟩
  | none => ⟨1, 1⟩

/-- Rows of a label and a line, the labels ending in one column. -/
def labelled (rows : List (String × String)) : String :=
  let width := (rows.map (·.1.length)).foldl max 0
  separated "\n" (rows.map fun (label, line) => rightAligned width label ++ wrapped " " line "")

/-- The consecutive parts of a line that have `width` characters, the last perhaps fewer. -/
def parts (width : Nat) (line : List Char) : List (List Char) :=
  (List.range ((line.length + width - 1) / width)).map fun i => (line.drop (width * i)).take width

/-- The longest line that is shown in one row. -/
def rowLimit : Nat := 120

/-- The length of the rows of a longer line. -/
def rowWidth : Nat := 80

def lineLabel (n : Nat) : String := toString n ++ " |"

/-- The rows around a place in a line of a text. -/
def excerptRows (lines : List (List Char)) (line : List Char) (p : Place) :
    List (String × String) :=
  let mark (column : Nat) := ("|", rightAligned column "^")
  let row (label : String) (line : List Char) := (label, String.ofList line)
  if line.length > rowLimit then
    let rows := parts rowWidth line
    let index := p.column / rowWidth
    (rows.take 1).map (row (lineLabel p.line)) ++ ((rows.drop 1).take index).map (row "|") ++
      mark (p.column % rowWidth) :: (rows[index + 1]?.toList.map (row "|"))
  else
    let above := if p.line > 1 then lines[p.line - 2]?.toList else []
    above.map (row (lineLabel (p.line - 1))) ++
      row (lineLabel p.line) line :: mark p.column ::
        (lines[p.line]?.toList.map (row (lineLabel (p.line + 1))))

/-- The excerpt around a character of a text that goes by `name`; `none` where the text has
fewer lines than the place says. -/
def excerpt (name : String) (text : List Char) (index : Nat) : Option String :=
  let p := Place.of text index
  let lines := documentLines text
  lines[p.line - 1]?.map fun line =>
    name ++ ":" ++ toString p.line ++ ":" ++ toString p.column ++ "\n" ++
      labelled (excerptRows lines line p)

end RequestBook.Text
