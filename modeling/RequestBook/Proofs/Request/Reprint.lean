import Mathlib
import RequestBook.Proofs.Document.Spelled
import RequestBook.Proofs.Request.Resolver

/-!
# Reprinted requests

The text of a request is a reprint of what the template composes. As long as the composed text is
reprintable, the text of the request means the document that was composed and is its own reprint.
-/

namespace RequestBook

open Document

/-- The text that the template composes for a field. -/
def composedText (template : TemplateSource) (s : Schema) (f : Field) (operation : String) :
    Except Failure String := do
  let (input, _) ← Formatter.plain.templateInput s f operation
  return (← template.load).render input

variable {template : TemplateSource} {s : Schema} {f : Field} {url operation text : String}
  {item : Item} {c : Composition}

theorem normalizeSource_eq_ok {query : String} :
    normalizeSource text = .ok query ↔ ∃ d, parse text = .ok d ∧ query = d.print := by
  rw [normalizeSource, Document.normalize]
  cases parse text with
  | error e =>
    constructor
    · intro h
      change (if _ then _ else _) = _ at h
      split at h <;> cases h
    · rintro ⟨d, hd, -⟩
      cases hd
  | ok d =>
    constructor
    · intro h
      cases h
      exact ⟨d, rfl, rfl⟩
    · rintro ⟨d', hd, rfl⟩
      cases hd
      rfl

theorem body_of_item {name : Json} (h : c.item name url = .ok item) :
    item.request.body = ⟨"graphql", c.query, c.values⟩ := by
  obtain ⟨e, -, h⟩ := bind_eq_ok.mp h
  split at h
  · cases h
    rfl
  · cases h

/-- A request that is made sends the reprint of the composed text. -/
theorem exists_composedText (h : synthesize template s f url operation = .ok item) :
    ∃ text, composedText template s f operation = .ok text ∧
      normalizeSource text = .ok item.request.body.query := by
  obtain ⟨c, hc, hitem⟩ := bind_eq_ok.mp h
  obtain ⟨⟨input, values⟩, hinput, hc⟩ := bind_eq_ok.mp hc
  obtain ⟨t, ht, hc⟩ := bind_eq_ok.mp hc
  obtain ⟨query, hquery, hc⟩ := bind_eq_ok.mp hc
  cases hc
  rw [ofExcept_self] at hitem ht hquery
  refine ⟨t.render input, ?_, ?_⟩
  · exact bind_eq_ok.mpr ⟨_, hinput, bind_eq_ok.mpr ⟨_, ht, rfl⟩⟩
  · rw [hquery, body_of_item hitem]

theorem exists_item {query name : String} {e : Endpoint} (hname : f.name = .str name)
    (hurl : Endpoint.ofUrl url = .ok e) (htext : composedText template s f operation = .ok text)
    (hquery : normalizeSource text = .ok query) :
    ∃ item, synthesize template s f url operation = .ok item ∧ item.request.body.query = query := by
  obtain ⟨⟨input, values⟩, hinput, htext⟩ := bind_eq_ok.mp htext
  obtain ⟨t, ht, hrender⟩ := bind_eq_ok.mp htext
  cases hrender
  have hcompose : Formatter.plain.compose template s f operation =
      .ok ⟨query, "\x7b\n" ++ values ++ "\n\x7d"⟩ :=
    bind_eq_ok.mpr ⟨_, hinput, bind_eq_ok.mpr ⟨t, by rw [ofExcept_self, ht],
      bind_eq_ok.mpr ⟨query, by rw [ofExcept_self, hquery], rfl⟩⟩⟩
  have hitem : Composition.item ⟨query, "\x7b\n" ++ values ++ "\n\x7d"⟩ f.name url =
      .ok ⟨name, ⟨"POST", [], ⟨"graphql", query, "\x7b\n" ++ values ++ "\n\x7d"⟩, e⟩, []⟩ := by
    rw [hname]
    exact bind_eq_ok.mpr ⟨e, hurl, rfl⟩
  exact ⟨_, bind_eq_ok.mpr ⟨_, hcompose, by rw [ofExcept_self, hitem]⟩, rfl⟩

/-- Whatever was formatted before, the text of a request that is made means the document that the
template composed, and it is its own reprint. -/
theorem synthesize_reprint (template : TemplateSource) (s : Schema) (f : Field)
    (url operation : String) (r : Resolver) (item : Item)
    (hitem : ((Formatter.remembering.synthesize template s f url operation).outcome r).1 = .ok item)
    (htext : ∀ text, composedText template s f operation = .ok text → Reprintable text) :
    ∃ text d, composedText template s f operation = .ok text ∧ parse text = .ok d ∧
      item.request.body.query = d.print ∧ parse item.request.body.query = .ok d ∧
        normalizeSource item.request.body.query = .ok item.request.body.query := by
  rw [Formatter.answers_synthesize] at hitem
  obtain ⟨text, hcomposed, hnormalized⟩ := exists_composedText hitem
  obtain ⟨d, hparse, hquery⟩ := normalizeSource_eq_ok.mp hnormalized
  obtain ⟨hmeans, -⟩ := (htext text hcomposed).normalize_print hparse
  rw [hquery]
  exact ⟨text, d, hcomposed, hparse, rfl, hmeans, normalizeSource_eq_ok.mpr ⟨d, hmeans, rfl⟩⟩

def numberField (name : String) : Field := ⟨.str name, .named (.str "Int") .scalar, .null, []⟩

def numberSchema : Schema := ⟨[⟨.str "Int", .scalar, .null, []⟩]⟩

/-- A definition with a block of its own in front of a query of selections alone. -/
def blockTemplate : TemplateSource :=
  .text "type A \x7b b: Int \x7d query \x7b \x7b\x7b name \x7d\x7d \x7d"

def blockQuery : String := "type A \x7b\n  b: Int\n\x7d\n\n\x7b\n  id\n\x7d"

set_option maxRecDepth 60000 in
theorem composedText_blockTemplate :
    composedText blockTemplate numberSchema (numberField "id") "query" =
      .ok "type A \x7b b: Int \x7d query \x7b id \x7d" := by
  cbv

theorem exists_item_blockTemplate :
    ∃ item, synthesize blockTemplate numberSchema (numberField "id") "https://api" "query" =
      .ok item ∧ item.request.body.query = blockQuery :=
  exists_item rfl rfl composedText_blockTemplate (eq_ok_of_toOption (by decide +kernel))

/-- The braces of the query stay its own, since the type in front of it has some. -/
theorem synthesize_reprint_block : ∃ item,
    ((Formatter.remembering.synthesize blockTemplate numberSchema (numberField "id") "https://api"
      "query").outcome .empty).1 = .ok item ∧
    item.request.body.query = blockQuery ∧ normalizeSource blockQuery = .ok blockQuery := by
  obtain ⟨item, hitem, hquery⟩ := exists_item_blockTemplate
  have hremembering := (Formatter.answers_synthesize blockTemplate numberSchema (numberField "id")
    "https://api" "query" .empty).trans hitem
  have htext : ∀ text, composedText blockTemplate numberSchema (numberField "id") "query" =
      .ok text → Reprintable text := by
    intro text h
    rw [composedText_blockTemplate] at h
    cases h
    decide +kernel
  obtain ⟨text, d, -, -, -, -, hreprint⟩ := synthesize_reprint blockTemplate numberSchema
    (numberField "id") "https://api" "query" .empty item hremembering htext
  rw [hquery] at hreprint
  exact ⟨item, hremembering, hquery, hreprint⟩

/-- The reprint of a type without a block and of a query of selections alone. -/
def mergedQuery : String := "type A\n\n\x7b\n  a\n\x7d"

set_option maxRecDepth 60000 in
theorem exists_item_mergedQuery :
    ∃ item, synthesize (.text "\x7b\x7b name \x7d\x7d") numberSchema
      (numberField "type A query \x7b a \x7d") "https://api" "query" = .ok item ∧
        item.request.body.query = mergedQuery := by
  have htext : composedText (.text "\x7b\x7b name \x7d\x7d") numberSchema
      (numberField "type A query \x7b a \x7d") "query" = .ok "type A query \x7b a \x7d" := by
    cbv
  exact exists_item rfl rfl htext (eq_ok_of_toOption (by decide +kernel))

theorem not_parse_mergedQuery (d : Document) : parse mergedQuery ≠ .ok d := by
  intro h
  have hfails : (parse mergedQuery).toBool = false := by decide +kernel
  rw [h] at hfails
  cases hfails

/-- The text of a request need not mean anything. -/
theorem not_forall_synthesize_reprint :
    ¬ ∀ (template : TemplateSource) (s : Schema) (f : Field) (url operation : String) (r : Resolver)
      (item : Item),
      ((Formatter.remembering.synthesize template s f url operation).outcome r).1 = .ok item →
        (∃ d, parse item.request.body.query = .ok d) ∧
          normalizeSource item.request.body.query = .ok item.request.body.query := by
  intro h
  obtain ⟨item, hitem, hquery⟩ := exists_item_mergedQuery
  obtain ⟨⟨d, hd⟩, -⟩ := h _ _ _ _ _ .empty item
    ((Formatter.answers_synthesize _ _ _ _ _ .empty).trans hitem)
  rw [hquery] at hd
  exact not_parse_mergedQuery d hd

end RequestBook
