import RequestBook.Collection.Basic
import RequestBook.Document.Parser
import RequestBook.Request.Formatting
import RequestBook.Request.Template

/-!
# Requests

One request per root field. The template composes a text from the field's arguments and
from the fields of the type it returns; the text is read as a document, and the printed
form of that document is what the request sends.
-/

namespace RequestBook

/-- The type a field returns, wrappers aside. -/
def Schema.returned (s : Schema) (f : Field) : Except Failure SchemaType :=
  match s.find? f.type.leafName with
  | some t => .ok t
  | none => .error (.unknownType f.type.leafName)

def TemplateSource.load : TemplateSource → Except Failure Template
  | standard => .ok Template.standard
  | text s =>
    match Template.read s with
    | .ok t => .ok t
    | .error .malformed => .error .invalidTemplate
    | .error .tooDeep => .error .deepTemplate
  | undecodable => .error .undecodable

/-- The printed form of a composed text. -/
def normalizeSource (source : String) : Except Failure String :=
  match Document.normalize source with
  | .ok text => .ok text
  | .error e =>
    if e.fault = .lexical .cutEscape then .error .cutEscape else .error (.composition e source)

/-- The document of a request and the text of its variables. -/
structure Composition where
  query : String
  values : String
  deriving Repr

/-- The item that sends a composed request. Its name has to be a text. -/
def Composition.item (c : Composition) (name : Json) (url : String) : Except Failure Item := do
  let endpoint ← Endpoint.ofUrl url
  match name with
  | .str text => return ⟨text, ⟨"POST", [], ⟨"graphql", c.query, c.values⟩, endpoint⟩, []⟩
  | _ => .error (.invalidCollection [⟨[.member "name"], .notString⟩])

namespace Formatter

variable {m : Type → Type} [Monad m] [MonadExcept Failure m]

/-- What is handed to the template for a root field, and the text of its variables. -/
def templateInput (F : Formatter m) (s : Schema) (f : Field) (operation : String) :
    m (TemplateInput × String) := do
  let texts ← F.argumentTexts f
  let selection ← F.selection (← ofExcept (s.returned f))
  return (⟨operation, f.name, !f.arguments.isEmpty, texts.declarations, texts.call, selection⟩,
    texts.entries)

def compose (F : Formatter m) (source : TemplateSource) (s : Schema) (f : Field)
    (operation : String) : m Composition := do
  let (input, entries) ← F.templateInput s f operation
  let template ← ofExcept source.load
  let query ← ofExcept (normalizeSource (template.render input))
  return ⟨query, "\x7b\n" ++ entries ++ "\n\x7d"⟩

/-- The request of a root field. -/
def synthesize (F : Formatter m) (source : TemplateSource) (s : Schema) (f : Field)
    (url operation : String) : m Item := do
  let composition ← F.compose source s f operation
  ofExcept (composition.item f.name url)

end Formatter

def compose (source : TemplateSource) (s : Schema) (f : Field) (operation : String) :
    Except Failure Composition :=
  Formatter.plain.compose source s f operation

/-- The request of a root field, made on its own. -/
def synthesize (source : TemplateSource) (s : Schema) (f : Field) (url operation : String) :
    Except Failure Item :=
  Formatter.plain.synthesize source s f url operation

end RequestBook
