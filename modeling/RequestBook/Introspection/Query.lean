import RequestBook.Text.Layout

/-!
# The introspection query

The query that asks a schema to describe itself. Its wider form also asks for what not every
server knows; the narrow form leaves the lines of those parts empty, so that both have the
same lines.
-/

namespace RequestBook.Introspection

/-- A line of the query, or a line that opens a group of parts. -/
inductive QueryPart where
  | line (text : String)
  | group (head : String) (parts : List QueryPart)

namespace QueryPart

mutual

def lines (indent : String) : QueryPart → List String
  | line text => [Text.wrapped indent text ""]
  | group head parts =>
    (indent ++ head ++ " \x7b") :: allLines (indent ++ "  ") parts ++ [indent ++ "\x7d"]

def allLines (indent : String) : List QueryPart → List String
  | [] => []
  | p :: rest => p.lines indent ++ allLines indent rest

end

def render (p : QueryPart) : String := Text.separated "\n" (p.lines "")

end QueryPart

open QueryPart

/-- How many references deep a wrapped type is described. -/
def referenceDepth : Nat := 9

def referenceParts : Nat → List QueryPart
  | 0 => [line "kind", line "name"]
  | depth + 1 => [line "kind", line "name", group "ofType" (referenceParts depth)]

/-- A part of the wider form only. -/
def optional (wide : Bool) (text : String) : QueryPart := line (if wide then text else "")

/-- The parameter that asks for deprecated elements too. -/
def withDeprecated : String := "(includeDeprecated: true)"

def widened (wide : Bool) (name : String) : String := if wide then name ++ withDeprecated else name

def named (field : String) : QueryPart := line (field ++ " \x7b name \x7d")

def schemaQuery (wide : Bool) : QueryPart :=
  group "query IntrospectionQuery" [
    group "__schema" [
      optional wide "description", named "queryType", named "mutationType",
      named "subscriptionType", group "types" [line "...FullType"],
      group "directives" [line "name", line "description", optional wide "isRepeatable",
        line "locations", group (widened wide "args") [line "...InputValue"]]]]

def typeFragment (wide : Bool) : QueryPart :=
  group "fragment FullType on __Type" [
    line "kind", line "name", line "description", optional wide "specifiedByURL",
    group ("fields" ++ withDeprecated) [line "name", line "description",
      group (widened wide "args") [line "...InputValue"], group "type" [line "...TypeRef"],
      line "isDeprecated", line "deprecationReason"],
    group (widened wide "inputFields") [line "...InputValue"],
    group "interfaces" [line "...TypeRef"],
    group ("enumValues" ++ withDeprecated) [line "name", line "description",
      line "isDeprecated", line "deprecationReason"],
    group "possibleTypes" [line "...TypeRef"]]

/-- The line of the query that asks for a default value. -/
def defaultValueField : String := "defaultValue"

def inputFragment (wide : Bool) : QueryPart :=
  group "fragment InputValue on __InputValue" [
    line "name", line "description", line "type \x7b ...TypeRef \x7d", line defaultValueField,
    optional wide "isDeprecated", optional wide "deprecationReason"]

def referenceFragment : QueryPart :=
  group "fragment TypeRef on __Type" (referenceParts referenceDepth)

/-- The text of the query. -/
def query (wide : Bool) : String :=
  let parts := [schemaQuery wide, typeFragment wide, inputFragment wide, referenceFragment]
  "\n" ++ Text.separated "\n\n" (parts.map QueryPart.render) ++ "\n"

end RequestBook.Introspection
