import RequestBook.CommandLine.Commands
import RequestBook.Text.Wrapping

/-!
# Help

The text that describes a command: its usage, a description in paragraphs, and tables of what
it knows, all wrapped to the width of a terminal.
-/

namespace RequestBook.CommandLine

/-- The number of columns that help is written in. -/
def helpWidth : Nat := 78

def blanks (n : Nat) : String := String.ofList (List.replicate n ' ')

/-- A paragraph with its margin. -/
structure Paragraph where
  margin : Nat
  text : String

def Paragraph.render (p : Paragraph) : String :=
  Text.separated "\n" ((Text.wrap (helpWidth - p.margin) p.text).map (blanks p.margin ++ ·))

/-- A row of a table of two columns. -/
structure Row where
  term : String
  meaning : String

/-- The margin of a table, and the distance of its columns. -/
def tableGap : Nat := 2

/-- A row whose first column has a given width. -/
def Row.render (width : Nat) (r : Row) : String :=
  let indent := tableGap + width + tableGap
  let lines := Text.wrap (helpWidth - indent) r.meaning
  blanks tableGap ++ r.term ++ blanks (width + tableGap - r.term.length) ++
    Text.separated ("\n" ++ blanks indent) lines ++ "\n"

def table (title : String) (rows : List Row) : String :=
  let width := (rows.map (·.term.length)).foldl max 0
  title ++ ":\n" ++ String.join (rows.map (Row.render width))

def Opt.row (o : Opt α) : Row :=
  ⟨(o.short.map fun c => "-" ++ c.toString ++ ", ").getD "" ++ o.long ++
      Text.wrapped " " o.metavar "",
    o.help ++ Text.wrapped "  " o.note ""⟩

/-- What `generate` does, in one line. -/
def generateSummary : String := "Generate a Postman collection for a GraphQL endpoint."

namespace Command

def description : Command → List Paragraph
  | program =>
    [⟨2, "Generate Postman collections from GraphQL schemas."⟩,
      ⟨2, "Every Query and Mutation field becomes one ready-to-edit request."⟩]
  | generate =>
    [⟨2, generateSummary⟩,
      ⟨2, "Examples:"⟩,
      ⟨6, generate.path ++ " --url https://api.example.com/graphql"⟩,
      ⟨6, generate.path ++ " -u https://api.example.com/graphql -o api.json --token $TOKEN"⟩,
      ⟨6, generate.path ++ " -u http://localhost:4000/graphql -s ./schema.graphqls"⟩]

def tables : Command → List String
  | program =>
    [table "Options" (programOptions.map Opt.row), table "Commands" [⟨"generate", generateSummary⟩]]
  | generate => [table "Options" (generateOptions.map Opt.row)]

def help (c : Command) : String :=
  Text.separated "\n\n" (c.usage :: c.description.map Paragraph.render) ++ "\n\n" ++
    Text.separated "\n" c.tables

end Command

end RequestBook.CommandLine
