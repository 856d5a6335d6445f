import RequestBook.Text.Lines

/-!
# Block strings

The text between triple quotes. Its lines lose their common indentation and the blank
lines at both ends. Written again it stands on lines of its own whenever that is easier
to read, or when the quotes would otherwise change its meaning.
-/

namespace RequestBook.BlockText

def isBlank (c : Char) : Bool := c == ' ' || c == '\t'

def isBlankLine (line : List Char) : Bool := line.all isBlank

def indentation (line : List Char) : Nat := (line.takeWhile isBlank).length

/-- The least indentation of the lines that are not blank. -/
def commonIndentation (lines : List (List Char)) : Nat :=
  (((lines.filter (!isBlankLine ·)).map indentation).min?).getD 0

def trimBlankLines (lines : List (List Char)) : List (List Char) :=
  ((lines.dropWhile isBlankLine).reverse.dropWhile isBlankLine).reverse

/-- The lines a block string means, given the lines it is written on. The first line stands
behind the quotes, so it neither counts for the common indentation nor loses it. -/
def dedent : List (List Char) → List (List Char)
  | [] => []
  | first :: rest =>
    trimBlankLines (first :: rest.map (List.drop (commonIndentation rest)))

/-- A triple quote inside the text gets a backslash. -/
def escapeQuotes : List Char → List Char
  | '"' :: '"' :: '"' :: cs => '\\' :: '"' :: '"' :: '"' :: escapeQuotes cs
  | c :: cs => c :: escapeQuotes cs
  | [] => []

/-- The length beyond which a text of one line still gets lines of its own. -/
def inlineLimit : Nat := 70

/-- A block string as it is printed, quotes included. -/
def print (text : String) : String :=
  let value := text.toList
  let escaped := escapeQuotes value
  let lines := match Text.textLines escaped with
    | [] => [[]]
    | lines => lines
  let single := lines.length == 1
  let startsBlank := fun (line : List Char) => (line.head?.map isBlank).getD true
  let leading := !single && (lines.drop 1).all startsBlank
  let endsTripled := ['"', '"', '"', '\\'].isPrefixOf escaped.reverse
  let trailing := (value.getLast? == some '"' && !endsTripled) || value.getLast? == some '\\'
  let multiline := !single || value.length > inlineLimit || trailing || leading || endsTripled
  let keepsStart := single && (value.head?.map isBlank).getD false
  let before := if (multiline && !keepsStart) || leading then "\n" else ""
  let after := if multiline || trailing then "\n" else ""
  "\"\"\"" ++ before ++ String.ofList escaped ++ after ++ "\"\"\""

end RequestBook.BlockText
