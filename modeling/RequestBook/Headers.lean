import RequestBook.Entries
import RequestBook.Failure
import RequestBook.Text.Blank
import RequestBook.Text.Pieces

/-!
# Headers

The headers that go with an introspection request. They come from providers, which can be
combined; where two set the same header, the later one wins and the header keeps the place
of the earlier one.
-/

namespace RequestBook

abbrev Headers := List (String × String)

namespace Headers

/-- These headers with others written over them. -/
def merge (headers new : Headers) : Headers := Entries.putAll (· == ·) new headers

/-- A line of the form `Name: value`, with the white space around both parts removed. -/
def ofLine (line : String) : Except Failure (String × String) :=
  match Text.cutAt [':'] line.toList with
  | some (name, value) =>
    if (Text.strip name).isEmpty then .error (.badHeaderLine line)
    else .ok (String.ofList (Text.strip name), String.ofList (Text.strip value))
  | none => .error (.badHeaderLine line)

/-- The headers of all lines, unless one of them is malformed. -/
def ofLines (lines : List String) : Except Failure Headers := do
  return merge [] (← lines.mapM ofLine)

end Headers

/-- Where headers come from. -/
inductive Provider where
  | none
  | bearer (token : String)
  | apiKey (key header : String)
  | fixed (headers : Headers)
  | combined (providers : List Provider)

namespace Provider

/-- The header that an API key is sent in unless the user names another. -/
def defaultKeyHeader : String := "x-api-key"

mutual

def headers : Provider → Headers
  | none => []
  | bearer token => [("Authorization", "Bearer " ++ token)]
  | apiKey key header => [(header, key)]
  | fixed headers => headers
  | combined providers => allHeaders [] providers

def allHeaders (before : Headers) : List Provider → Headers
  | [] => before
  | p :: rest => allHeaders (before.merge p.headers) rest

end

end Provider

end RequestBook
