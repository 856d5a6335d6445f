import RequestBook.HostName.Letters
import RequestBook.Json.Display
import RequestBook.Json.Parser
import RequestBook.Token.Reader

/-!
# Failures

Everything that can go wrong between a schema and a saved collection, by its cause.
`Failure.message` is the only place where causes become words.
-/

namespace RequestBook

/-- The schema lacks something that every schema has. -/
inductive IntegrityFault where
  | badKind (value : Json)
  | noSchema
  | noTypes
  | missingReference
  | cutWrapper (kind : String)
  | unnamedReference (kind : String)
  | noQuery
  | invalidJson (file detail : String)
  | invalidDefinitions (file detail : String)

/-- A part of the input has a shape that its reader does not expect. `type` is what messages call
the type of that part. -/
inductive ShapeFault where
  /-- Members are asked of what is no object. -/
  | notObject {type : String}
  /-- A name is looked up in what has no named parts. -/
  | notIndexable {type : String}
  | missingMember (name : String)
  | notIterable {type : String}
  /-- A list or an object stands where a name has to be remembered. -/
  | notKey {type : String}
  /-- A description that is no text. -/
  | notText {type : String}
  deriving DecidableEq, Repr

inductive TransportFault where
  | status (code : Int)
  | network (detail : String)
  | invalidJson
  | notObject
  | malformedErrors (value : Json)
  | serverErrors (errors : List Json)
  | noData
  /-- A failure that the caller's own transport reports in its own words. -/
  | reported (detail : String)

/-- Where in a document something is wrong. -/
inductive PathStep where
  | member (name : String)
  | index (n : Nat)
  deriving DecidableEq, Repr

inductive IssueKind where
  | missing | notString | notList | notObject
  deriving DecidableEq, Repr

structure Issue where
  path : List PathStep
  kind : IssueKind
  deriving DecidableEq, Repr

inductive Failure where
  | integrity (fault : IntegrityFault)
  | shape (fault : ShapeFault)
  | unknownType (name : Json)
  | composition (error : SyntaxError) (source : String)
  /-- A text ends inside an escape. -/
  | cutEscape
  /-- The place of a fault is beyond the lines of its text. -/
  | unplaceable
  | invalidTemplate
  /-- The choices of a template stand too deep in one another. -/
  | deepTemplate
  | relativeUrl (url : String)
  | badHeaderLine (line : String)
  | hugeNumber (digits : Nat)
  /-- An integer has more digits than are written. -/
  | hugeInteger
  | transport (fault : TransportFault) (status : Option Int)
  /-- The transport does not accept the request at all. -/
  | refused (reason : String)
  /-- What should be sent to is no URL. -/
  | invalidUrl
  | nonAsciiHeader
  /-- The host stands for a name in other characters, which cannot be read. -/
  | unreadableHost (fault : HostName.LabelFault)
  /-- A response has come from a URL that says neither how nor where to. -/
  | unplacedResponse (url : String)
  | invalidCollection (issues : List Issue)
  | undecodable
  | missingFile
  /-- A file stands where a directory has to be. -/
  | fileInTheWay
  /-- A directory is looked for below a file. -/
  | belowFile
  /-- A directory stands where a file has to be. -/
  | directoryInTheWay
  /-- The name of a file, or a whole path, is longer than it may be. -/
  | longName
  /-- A path holds a character that ends paths. -/
  | nulInPath

namespace IntegrityFault

def message : IntegrityFault → String
  | badKind value => "Type kind is missing or not a string: " ++ value.shown
  | noSchema => "Introspection result has no __schema member"
  | noTypes => "Introspection result has no __schema.types list"
  | missingReference => "Type reference is missing"
  | cutWrapper kind => kind ++ " wrapper has no ofType; the introspection query may be too shallow"
  | unnamedReference kind => "Named type reference of kind " ++ kind ++ " has no name"
  | noQuery => "Query type not found"
  | invalidJson file detail => "Invalid introspection JSON in " ++ file ++ ": " ++ detail
  | invalidDefinitions file detail => "Invalid SDL in " ++ file ++ ": " ++ detail

end IntegrityFault

namespace ShapeFault

def message : ShapeFault → String
  | @notObject type => "'" ++ type ++ "' object has no attribute 'get'"
  | @notIndexable type =>
    if type = "str" then "string indices must be integers, not 'str'"
    else if type = "list" then "list indices must be integers or slices, not str"
    else "'" ++ type ++ "' object is not subscriptable"
  | missingMember name => Json.shownText name
  | @notIterable type => "'" ++ type ++ "' object is not iterable"
  | @notKey type => "unhashable type: '" ++ type ++ "'"
  | @notText type => "'" ++ type ++ "' object has no attribute 'replace'"

end ShapeFault

namespace Issue

/-- The part of a collection that a path leads to. -/
def part (path : List PathStep) : String :=
  match path.getLast? with
  | none => "PostmanCollection"
  | some (.index _) => "PostmanItem"
  | some (.member "info") => "PostmanInfo"
  | some (.member "request") => "PostmanRequest"
  | some (.member "body") => "PostmanBody"
  | some (.member "graphql") => "PostmanGraphQLBody"
  | some (.member _) => "PostmanUrl"

/-- Where an issue is, and what it is on the line below. -/
def message (i : Issue) : String :=
  let step
    | .member name => name
    | .index n => toString n
  let kind := match i.kind with
    | .missing => "Field required"
    | .notString => "Input should be a valid string"
    | .notList => "Input should be a valid list"
    | .notObject => "Input should be a valid dictionary or instance of " ++ part i.path
  Text.separated "." (i.path.map step) ++ "\n  " ++ kind

end Issue

namespace TransportFault

/-- One entry of a server's error list: its message if it has one. -/
def entryText (entry : Json) : String :=
  match entry with
  | .obj members => ((members.lookup "message").getD entry).plain
  | _ => entry.plain

def message : TransportFault → String
  | status code => "Introspection request failed with HTTP " ++ toString code
  | network detail => "Introspection request failed: " ++ detail
  | invalidJson => "Introspection response is not valid JSON"
  | notObject => "Introspection response is not a JSON object"
  | malformedErrors value => "Malformed GraphQL errors member: " ++ value.shown
  | serverErrors errors => "GraphQL errors: " ++ Text.separated "; " (errors.map entryText)
  | noData => "Introspection response has no data"
  | reported detail => detail

/-- The errors the server listed. -/
def errors : TransportFault → List Json
  | serverErrors errors => errors
  | _ => []

end TransportFault

namespace Failure

/-- Whether this is a failure of the conversion itself, which the user is told about in one
line. -/
def isReported : Failure → Bool
  | integrity _ | unknownType _ | composition .. | transport .. => true
  | _ => false

def message : Failure → String
  | integrity fault => fault.message
  | unknownType name => "Type not found in schema: " ++ name.plain
  | composition error _ => "Synthesized operation is not valid GraphQL: " ++ error.message
  | relativeUrl url => "URL must be absolute (scheme://host/...): " ++ url
  | badHeaderLine line => "Header must look like 'Name: value', got " ++ Json.shownText line
  | hugeNumber digits => (Json.FaultKind.hugeNumber digits).message
  | hugeInteger =>
    s!"Exceeds the limit ({Text.digitLimit} digits) for integer string conversion; " ++
      "use sys.set_int_max_str_digits() to increase the limit"
  | transport fault _ => fault.message
  | shape fault => fault.message
  | cutEscape => "string index out of range"
  | unplaceable => "list index out of range"
  | invalidTemplate => "The template is not well formed"
  | deepTemplate => "too many levels of indentation"
  | refused reason => "The transport refuses the request: " ++ reason
  | invalidUrl => "The request has no valid URL"
  | nonAsciiHeader => "A header is not ASCII"
  | unreadableHost fault => "The host is no name: " ++ match fault with
    | .form => "the form of a label is wrong"
    | .character => "a character is not admitted"
    | .place => "a character stands where it may not"
    | .neighbour => "a joiner stands behind a character that is not known"
    | .direction => "the directions of the letters do not go together"
  | unplacedResponse url => "unknown url type: " ++ Json.shownText url
  | invalidCollection issues => Text.separated "\n" (issues.map Issue.message)
  | undecodable => "A file is not in UTF-8"
  | missingFile => "No such file or directory"
  | fileInTheWay => "File exists"
  | belowFile => "Not a directory"
  | directoryInTheWay => "Is a directory"
  | longName => "File name too long"
  | nulInPath => "embedded null byte"

end Failure

end RequestBook
