import RequestBook.Collection.Assembly
import RequestBook.Proofs.Request.Endpoint
import RequestBook.Proofs.Request.Resolver

/-!
# The requests of a collection

One resolver makes all requests of a collection, in the order of the root fields. The collection
holds exactly the requests that the root fields have on their own, or there is none: the first
root field that fails on its own fails it.
-/

namespace RequestBook

open Resolving

namespace Schema

/-- The request of a root field on its own, made by a resolver that has formatted nothing yet. -/
def requestAlone (source : TemplateSource) (s : Schema) (url : String) (root : Field × String) :
    Except Failure Item :=
  Resolving.fresh (Formatter.remembering.synthesize source s root.1 url root.2)

theorem requestAlone_eq (source : TemplateSource) (s : Schema) (url : String)
    (root : Field × String) :
    s.requestAlone source url root = synthesize source s root.1 url root.2 :=
  (Formatter.answers_synthesize source s root.1 url root.2).fresh

variable {source : TemplateSource} {s : Schema} {url : String}

theorem assemble_of_noQuery (h : s.query? = none) :
    s.assemble source url = .error (.integrity .noQuery) := by
  rw [assemble, h]
  rfl

/-- Where there is a query type, the shared resolver leaves no trace in the collection. -/
theorem assemble_of_query {q : SchemaType} (h : s.query? = some q) :
    s.assemble source url =
      s.rootFields.mapM (s.requestAlone source url) >>= fun items =>
        Endpoint.ofUrl url >>= fun e => .ok ⟨e.collectionName, collectionFormat, items⟩ := by
  have hrequest : ∀ root ∈ s.rootFields,
      Answers (Formatter.remembering.synthesize source s root.1 url root.2)
        (s.requestAlone source url root) := by
    intro root _
    rw [requestAlone_eq]
    exact Formatter.answers_synthesize source s root.1 url root.2
  have hassemble := ((answers_mapM hrequest).bind fun items =>
    (answers_ofExcept (Endpoint.ofUrl url)).bind fun e =>
      answers_pure (Collection.mk e.collectionName collectionFormat items)).fresh
  rw [ofExcept_self] at hassemble
  rw [assemble, h]
  exact hassemble

theorem assemble_eq_ok {q : SchemaType} (h : s.query? = some q) {c : Collection} :
    s.assemble source url = .ok c ↔ ∃ items e,
      List.Forall₂ (fun root item => s.requestAlone source url root = .ok item) s.rootFields items ∧
        Endpoint.ofUrl url = .ok e ∧ c = ⟨e.collectionName, collectionFormat, items⟩ := by
  rw [assemble_of_query h, bind_eq_ok]
  constructor
  · rintro ⟨items, hitems, hrest⟩
    obtain ⟨e, he, hc⟩ := bind_eq_ok.mp hrest
    cases hc
    exact ⟨items, e, mapM_eq_ok.mp hitems, he, rfl⟩
  · rintro ⟨items, e, hitems, he, rfl⟩
    exact ⟨items, mapM_eq_ok.mpr hitems, bind_eq_ok.mpr ⟨e, he, rfl⟩⟩

end Schema

end RequestBook
