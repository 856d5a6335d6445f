import RequestBook.Collection.Assembly
import RequestBook.Schema.File

/-!
# Events

What a run reports on its way to a collection, in the order in which it happens. A failure
ends the report of the stage that fails, so the events of a stage go exactly as far as the
stage itself.
-/

namespace RequestBook

inductive Level where
  | debug | info | error
  deriving DecidableEq, Repr

inductive Event where
  | loading (file : String)
  | buildingDefinitions (file : String)
  | unknownKind (spelling : String)
  | typesRead (count : Nat)
  | fetching (url : String)
  | composed (operation : String) (name : Json)
  | noMutation
  | allComposed (queries mutations : Nat)
  | saved (count : Nat) (path : String)
  | failed (message : String)

namespace Event

def level : Event → Level
  | buildingDefinitions _ | unknownKind _ | typesRead _ | composed .. | noMutation => .debug
  | failed _ => .error
  | _ => .info

def message : Event → String
  | loading file => "Loading schema from " ++ file
  | buildingDefinitions file => "Building introspection from SDL file " ++ file
  | unknownKind spelling => "Keeping unrecognized type kind " ++ spelling
  | typesRead count => s!"Parsed {count} types from introspection"
  | fetching url => "Fetching introspection from " ++ url
  | composed operation name => "Synthesized " ++ operation ++ " " ++ name.plain
  | noMutation => "Schema has no Mutation type"
  | allComposed queries mutations => s!"Synthesized {queries} queries and {mutations} mutations"
  | saved count path => s!"Wrote {count} requests to " ++ path
  | failed message => message

end Event

/-! ## Reading a schema -/

/-- Whether something has succeeded. -/
def Except.succeeds : Except ε α → Bool
  | .ok _ => true
  | .error _ => false

/-- The events of parts that are read one after the other up to the first that fails. -/
def eventsUntil (events : Json → List Event) (read : Json → Except Failure α) :
    List Json → List Event
  | [] => []
  | j :: rest =>
    events j ++ if Except.succeeds (read j) then eventsUntil events read rest else []

/-- The events of the parts of a value, if it has parts. -/
def partEvents (events : Json → List Event) (read : Json → Except Failure α) (j : Json) :
    List Event :=
  match j.parts with
  | .ok parts => eventsUntil events read parts
  | .error _ => []

def Kind.events : Kind → List Event
  | .other spelling => [.unknownKind spelling]
  | _ => []

/-- The kind at the end of a chain of wrappers is the only one that may be unknown. -/
def TypeRef.readingEvents (j : Json) : List Event :=
  match j with
  | .obj members =>
    match Kind.ofJson (j.memberOrNull "kind") with
    | .error _ => []
    | .ok kind =>
      if kind.isWrapper then
        match h : members.lookup "ofType" with
        | none => []
        | some inner =>
          have := Json.sizeOf_lookup_lt h
          TypeRef.readingEvents inner
      else kind.events
  | _ => []
termination_by j

/-- The type of a named part, as it is given. -/
def namedType? (j : Json) : Option Json :=
  match j.required "name", j.required "type" with
  | .ok _, .ok type => some type
  | _, _ => none

/-- The events of the type of a named part. -/
def typeEvents (j : Json) : List Event := ((namedType? j).map TypeRef.readingEvents).getD []

def Field.readingEvents (j : Json) : List Event :=
  typeEvents j ++
    match (namedType? j).map TypeRef.ofJson with
    | some (.ok _) => partEvents typeEvents Argument.ofJson (j.memberOrNull "args")
    | _ => []

def SchemaType.readingEvents (j : Json) : List Event :=
  match Kind.ofJson (j.memberOrNull "kind") with
  | .error _ => []
  | .ok kind =>
    kind.events ++
      match j.required "name" with
      | .ok _ => partEvents Field.readingEvents Field.ofJson (j.memberOrNull kind.fieldsMember)
      | .error _ => []

namespace Schema

/-- The event at the end of a successful reading. -/
def readEvent : Except Failure Schema → List Event
  | .ok s => [.typesRead s.types.length]
  | .error _ => []

def readingEvents (result : Json) : List Event :=
  let types := ((node? result).map (·.memberOrNull "types")).getD .null
  (match types with
    | .arr types => eventsUntil SchemaType.readingEvents SchemaType.ofJson types
    | _ => []) ++ readEvent (ofJson result)

/-- The events of reading a file; `path` is how messages call it. -/
def fileEvents (path name : String) (bytes : List UInt8) : List Event :=
  match RequestBook.fileText bytes with
  | .error _ => []
  | .ok text =>
    if holdsDefinitions name then
      .buildingDefinitions path :: readEvent (ofDefinitions name text)
    else
      match Json.parse text with
      | .ok result => readingEvents result
      | .error _ => []

/-! ## Assembling a collection -/

/-- The events of composing root fields one after the other up to the first that fails. -/
def composingEvents (source : TemplateSource) (s : Schema) (url : String) :
    List (Field × String) → List Event
  | [] => []
  | (f, operation) :: rest =>
    match compose source s f operation with
    | .error _ => []
    | .ok _ =>
      .composed operation f.name ::
        if Except.succeeds (synthesize source s f url operation) then
          composingEvents source s url rest
        else []

def assemblyEvents (source : TemplateSource) (s : Schema) (url : String) : List Event :=
  if s.query?.isNone then []
  else
    let fields := s.rootFields
    let synthesized := fields.mapM fun (f, operation) => synthesize source s f url operation
    let count (t : Option SchemaType) := ((t.map (·.fields.length)).getD 0)
    composingEvents source s url fields ++
      if Except.succeeds synthesized then
        (if s.mutation?.isNone then [.noMutation] else []) ++
          [.allComposed (count s.query?) (count s.mutation?)]
      else []

end Schema

end RequestBook
