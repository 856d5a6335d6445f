import RequestBook.Request.Resolver
import RequestBook.Schema.Introspection

/-!
# Assembling a collection

The fields of the query type and then those of the mutation type, in the order of the
schema, become the items of one collection; the first field that fails decides.
-/

namespace RequestBook

namespace Schema

/-- The root fields with the operation that each belongs to. -/
def rootFields (s : Schema) : List (Field × String) :=
  ((s.query?.map SchemaType.fields).getD []).map (·, "query") ++
    ((s.mutation?.map SchemaType.fields).getD []).map (·, "mutation")

/-- One resolver makes the requests of all root fields. -/
def assemble (source : TemplateSource) (s : Schema) (url : String) : Except Failure Collection :=
  Resolving.fresh do
    if s.query?.isNone then throw (.integrity .noQuery)
    else
      let items ← s.rootFields.mapM fun (f, operation) =>
        Formatter.remembering.synthesize source s f url operation
      let endpoint ← ofExcept (Endpoint.ofUrl url)
      return ⟨endpoint.collectionName, collectionFormat, items⟩

end Schema

/-- The collection for an endpoint, made from its introspection result. -/
def Collection.ofResult (source : TemplateSource) (url : String) (result : Json) :
    Except Failure Collection := do
  (← Schema.ofJson result).assemble source url

end RequestBook
