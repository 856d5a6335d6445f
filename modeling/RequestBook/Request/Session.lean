import RequestBook.Request.Resolver
import RequestBook.Schema.Introspection

/-!
# Sessions

A session takes steps over one schema with one resolver. A step that fails has still
formatted what came before its failure.
-/

namespace RequestBook

structure Session extends Resolver where
  schema : Schema
  template : TemplateSource

inductive Step where
  | formatArgument (argument : Argument)
  | formatField (field : Field)
  | buildArguments (field : Field)
  | buildSelection (type : SchemaType)
  | synthesize (field : Field) (url operation : String)
  | lookup (name : Json)
  | addType (type : SchemaType)

inductive StepResult where
  | argument (formatted : FormattedArgument)
  | text (text : String)
  | arguments (texts : ArgumentTexts)
  | item (item : Item)
  | type (type : Option SchemaType)
  | size (n : Nat)

namespace Step

/-- What a step does over a schema. -/
def perform (s : Schema) (template : TemplateSource) : Step → Resolving StepResult
  | formatArgument a => .argument <$> Formatter.remembering.argument a
  | formatField f => .text <$> Formatter.remembering.field f
  | buildArguments f => .arguments <$> Formatter.remembering.argumentTexts f
  | buildSelection t => .text <$> Formatter.remembering.selection t
  | synthesize f url operation =>
    .item <$> Formatter.remembering.synthesize template s f url operation
  | lookup name => return .type (s.find? name)
  | addType _ => return .size (s.types.length + 1)

/-- The schema after a step. -/
def schemaAfter (s : Schema) : Step → Schema
  | addType t => ⟨s.types ++ [t]⟩
  | _ => s

end Step

namespace Session

def start (schema : Schema) (template : TemplateSource) : Session := ⟨.empty, schema, template⟩

def take (σ : Session) (step : Step) : Except Failure StepResult × Session :=
  let (result, resolver) := (step.perform σ.schema σ.template).outcome σ.toResolver
  (result, { σ with toResolver := resolver, schema := step.schemaAfter σ.schema })

/-- The results of steps taken one after the other, and the session behind them. -/
def run (σ : Session) : List Step → List (Except Failure StepResult) × Session
  | [] => ([], σ)
  | step :: rest =>
    let (result, next) := σ.take step
    let (results, last) := next.run rest
    (result :: results, last)

end Session

end RequestBook
