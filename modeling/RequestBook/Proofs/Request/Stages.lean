import RequestBook.Proofs.Outcomes
import RequestBook.Request.Synthesis

/-!
# The stages of a request

A request is made of the texts of a field's arguments and of the selection of what it returns. A
template puts them together, and the composed text is read and printed. A schema comes into a
request with that selection only, and so does what a field returns.
-/

namespace RequestBook

/-- The selection of what a field returns. -/
def Schema.selection (s : Schema) (f : Field) : Except Failure String :=
  s.returned f >>= Formatter.plain.selection

variable {source : TemplateSource} {s s' : Schema} {f f' : Field} {url operation : String}

theorem synthesize_eq : synthesize source s f url operation = (do
    let texts ← Formatter.plain.argumentTexts f
    let selection ← s.selection f
    let template ← source.load
    let query ← normalizeSource (template.render ⟨operation, f.name, !f.arguments.isEmpty,
      texts.declarations, texts.call, selection⟩)
    (Composition.mk query ("\x7b\n" ++ texts.entries ++ "\n\x7d")).item f.name url) := by
  rw [synthesize, Formatter.synthesize, Formatter.compose, Formatter.templateInput]
  simp only [ofExcept_self, bind_assoc, pure_bind, Schema.selection]

/-- Requests agree if the fields have one name, the same arguments and one selection. -/
theorem synthesize_congr (hname : f'.name = f.name) (harguments : f'.arguments = f.arguments)
    (hselection : s'.selection f' = s.selection f) :
    synthesize source s' f' url operation = synthesize source s f url operation := by
  have htexts : Formatter.plain.argumentTexts f' = Formatter.plain.argumentTexts f := by
    rw [Formatter.argumentTexts, Formatter.argumentTexts, harguments]
  rw [synthesize_eq, synthesize_eq, hname, harguments, htexts, hselection]

/-- A request needs the type that its field returns. -/
theorem exists_returned_of_synthesize {item : Item}
    (h : synthesize source s f url operation = .ok item) : ∃ t, s.returned f = .ok t := by
  rw [synthesize_eq] at h
  obtain ⟨texts, -, h⟩ := bind_eq_ok.mp h
  obtain ⟨selection, hselection, -⟩ := bind_eq_ok.mp h
  obtain ⟨t, ht, -⟩ := bind_eq_ok.mp hselection
  exact ⟨t, ht⟩

end RequestBook
