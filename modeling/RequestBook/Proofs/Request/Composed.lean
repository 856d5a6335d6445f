import RequestBook.Proofs.Request.Reprint
import RequestBook.Proofs.Request.Synthesis
import RequestBook.Proofs.Request.Template

/-!
# The composed text

What a request is read from: the pieces of the standard template with the texts of the field between
them. Nothing of what a server has sent is read by the template, so it stands there as it was sent;
only the line breaks of a description have become blanks.
-/

namespace RequestBook

open Text

/-- A description of one line follows its field as it is. -/
theorem Json.remark_of_oneLine {description : String}
    (h : ∀ c ∈ description.toList, c ≠ '\n' ∧ c ≠ '\r') (hempty : description ≠ "")
    (hundefined : description ≠ "undefined") :
    (Json.str description).remark = " # " ++ description ++ "\n" := by
  rw [remark_str, if_neg (not_or.mpr ⟨hempty, hundefined⟩), flattenBreaks_eq_self h,
    String.ofList_toList]

/-! ## The texts of a field -/

/-- Pieces in one line, or each on a line of its own once there are too many for one. -/
def arranged (sep lineStart lineEnd : String) (pieces : List String) : String :=
  if pieces.length > inlineArgumentLimit then
    separated sep (pieces.map (lineStart ++ ·)) ++ lineEnd
  else separated sep (pieces.map (" " ++ ·))

namespace Field

def declarations (f : Field) : String :=
  arranged "," "\n\t" "\n" (f.arguments.map fun a => "$" ++ a.name.plain ++ ": " ++ a.type.signature)

def callArguments (f : Field) : String :=
  arranged ", " "\n\t\t" "\n\t" (f.arguments.map fun a => a.name.plain ++ ": $" ++ a.name.plain)

/-- A clause that is there if and only if there are arguments. -/
def clause (f : Field) (text : String) : String :=
  if f.arguments = [] then "" else "(" ++ text ++ ")"

end Field

/-- The lines of the fields of an object type. Where all of them only comment, the type's name is
selected besides. -/
def SchemaType.selectionLines (t : SchemaType) : String :=
  if t.kind = .object ∧ !t.fields.isEmpty then selectionText (t.fields.map Field.line) else ""

/-- The text that the request of a field is read from. -/
def Field.composed (f : Field) (operation : String) (t : SchemaType) : String :=
  operation ++ " " ++ f.name.plain ++ f.clause f.declarations ++ "\x7b\n\t" ++
    f.name.plain ++ f.clause f.callArguments ++
    (if t.selectionLines = "" then "" else "\x7b\n" ++ t.selectionLines ++ "\t\x7d") ++ "\n\x7d"

/-! ## What the template is given -/

theorem declarations_eq (f : Field) : f.argumentTexts.declarations = f.declarations := by
  have hpiece (before : String) (a : Argument) :
      before ++ "$" ++ a.name.plain ++ ": " ++ a.formatted.type.plain =
        before ++ ("$" ++ a.name.plain ++ ": " ++ a.type.signature) := by
    -- A full `simp` would merge the literals in front on one side only.
    rw [Argument.formatted, TypeRef.plain_signatureValue]
    simp only [String.append_assoc]
  simp only [Field.argumentTexts, ArgumentTexts.ofFormatted, Field.declarations, arranged,
    List.length_map, List.map_map, Function.comp_def, hpiece]
  split
  · rfl
  · exact String.append_empty

theorem callArguments_eq (f : Field) : f.argumentTexts.call = f.callArguments := by
  simp only [Field.argumentTexts, ArgumentTexts.ofFormatted, Field.callArguments, arranged,
    List.length_map, List.map_map, Function.comp_def, String.append_assoc]
  split
  · rfl
  · exact String.append_empty

theorem selection_of_isString {t : SchemaType}
    (h : ∀ g ∈ t.fields, g.name.IsString ∧ g.description.IsText) :
    Formatter.plain.selection t = .ok t.selectionLines := by
  rw [Formatter.selection, SchemaType.selectionLines]
  split
  · change (t.fields.mapM Field.format >>= fun lines => pure (selectionText lines)) = _
    rw [mapM_ok_map fun g hg => Field.format_of_isString (h g hg).1 (h g hg).2]
    rfl
  · rfl

theorem render_templateInput (f : Field) (operation : String) (t : SchemaType) :
    Template.standard.render (f.templateInput operation t.selectionLines) =
      f.composed operation t := by
  have hclause (text : String) :
      (f.templateInput operation t.selectionLines).bracketed text = f.clause text := by
    rw [TemplateInput.bracketed, Field.clause, Field.templateInput]
    cases f.arguments <;> rfl
  rw [render_standard, hclause, hclause, Field.composed]
  change _ ++ f.clause f.argumentTexts.declarations ++ _ ++ _ ++
    f.clause f.argumentTexts.call ++ _ ++ _ = _
  rw [declarations_eq, callArguments_eq]
  rfl

/-! ## What is read -/

variable {source : TemplateSource} {s : Schema} {f : Field} {t : SchemaType}

/-- The standard template, left out or written out. -/
theorem load_of_standard (h : source = .standard ∨ source = .text Template.standardText) :
    source.load = .ok .standard := by
  rcases h with rfl | rfl
  · rfl
  · rw [TemplateSource.load, Template.read_standardText]

/-- Only a text that is no document is quoted by a failure. -/
theorem normalizeSource_eq_composition {text quoted : String} {e : SyntaxError} :
    normalizeSource text = .error (.composition e quoted) ↔
      quoted = text ∧ Document.normalize quoted = .error e ∧ e.fault ≠ .lexical .cutEscape := by
  rw [normalizeSource]
  cases hread : Document.normalize text with
  | ok query =>
    constructor
    · intro h
      cases h
    · rintro ⟨rfl, he, -⟩
      rw [hread] at he
      cases he
  | error e' =>
    by_cases hcut : e'.fault = .lexical .cutEscape
    · simp only [hcut, if_true]
      constructor
      · intro h
        cases h
      · rintro ⟨rfl, he, hne⟩
        rw [hread] at he
        cases he
        exact absurd hcut hne
    · simp only [hcut, if_false]
      constructor
      · intro h
        cases h
        exact ⟨rfl, hread, hcut⟩
      · rintro ⟨rfl, he, -⟩
        rw [hread] at he
        cases he
        rfl

theorem item_ne_composition (c : Composition) (name : Json) (url : String) {e : SyntaxError}
    {quoted : String} : c.item name url ≠ .error (.composition e quoted) := by
  intro h
  by_cases hurl : IsAbsolute url
  · obtain ⟨endpoint, hendpoint⟩ := Endpoint.exists_ofUrl hurl
    rw [Composition.item, hendpoint] at h
    cases name <;> cases h
  · rw [Composition.item, Endpoint.ofUrl_relative hurl] at h
    cases h

section Reading

variable (hfound : s.find? f.type.leafName = some t)
  (harguments : ∀ a ∈ f.arguments, a.name.IsString)
  (hfields : ∀ g ∈ t.fields, g.name.IsString ∧ g.description.IsText)
include hfound harguments hfields

theorem composedText_eq (hsource : source.load = .ok .standard) (operation : String) :
    composedText source s f operation = .ok (f.composed operation t) := by
  have hinput : Formatter.plain.templateInput s f operation =
      .ok (f.templateInput operation t.selectionLines, f.argumentTexts.entries) := by
    rw [Formatter.templateInput, argumentTexts_of_isString harguments, Schema.returned, hfound]
    change (Formatter.plain.selection t >>= fun selection => pure (_, _)) = _
    rw [selection_of_isString hfields]
    rfl
  rw [composedText, hinput, hsource, ← render_templateInput]
  rfl

/-- A request is read from the composed text and from nothing else. -/
theorem synthesize_eq_composed (hsource : source.load = .ok .standard) (operation url : String) :
    synthesize source s f url operation =
      normalizeSource (f.composed operation t) >>= fun query =>
        (Composition.mk query f.values).item f.name url := by
  rw [synthesize_of_selection url hsource harguments hfound (selection_of_isString hfields),
    render_templateInput]

end Reading

/-- With the standard template, the text of a request is composed of texts as they were sent, and
that text is what is read: a request is made of it, or a failure quotes it, unless it ends within
an escape. The descriptions stand in it as they were sent as well, if they are of one line. -/
theorem synthesize_composed (s : Schema) (f : Field) (t : SchemaType) (operation url : String)
    (source : TemplateSource) (hsource : source = .standard ∨ source = .text Template.standardText)
    (hfound : s.find? f.type.leafName = some t) (harguments : ∀ a ∈ f.arguments, a.name.IsString)
    (hfields : ∀ g ∈ t.fields, g.name.IsString ∧ g.description.IsText) :
    composedText source s f operation = .ok (f.composed operation t) ∧
    (∀ item, synthesize source s f url operation = .ok item →
      Document.normalize (f.composed operation t) = .ok item.request.body.query) ∧
    (∀ e text, synthesize source s f url operation = .error (.composition e text) ↔
      text = f.composed operation t ∧ Document.normalize text = .error e ∧
        e.fault ≠ .lexical .cutEscape) ∧
    ∀ g ∈ t.fields, ∀ description : String, g.description = .str description →
      description ≠ "" → description ≠ "undefined" →
      (∀ c ∈ description.toList, c ≠ '\n' ∧ c ≠ '\r') →
      g.line = fieldLine g.name.plain (" # " ++ description ++ "\n") g.type.leafKind := by
  have hload := load_of_standard hsource
  have hsynthesize := synthesize_eq_composed hfound harguments hfields hload operation url
  refine ⟨composedText_eq hfound harguments hfields hload operation, ?made, ?failed, ?described⟩
  case made =>
    intro item hitem
    rw [hsynthesize] at hitem
    obtain ⟨query, hquery, hitem⟩ := bind_eq_ok.mp hitem
    obtain ⟨d, hd, rfl⟩ := normalizeSource_eq_ok.mp hquery
    rw [body_of_item hitem, Document.normalize, hd]
    rfl
  case failed =>
    intro e text
    rw [hsynthesize, bind_eq_error_iff fun query => item_ne_composition _ f.name url,
      normalizeSource_eq_composition]
  case described =>
    intro g _ description hdescription hempty hundefined hline
    rw [Field.line, hdescription, Json.remark_of_oneLine hline hempty hundefined]

/-- A field with texts in it that mean something to a template, to a page or in quotes. -/
def quotingField : Field :=
  ⟨.str "\x7b\x7b name \x7d\x7d", .list (.named (.str "<Page>") .object), .null,
    [⟨.str "a & b", .nonNull (.named (.str "\x7b% raw %\x7d") .scalar), .null, .null⟩]⟩

def quotingType : SchemaType :=
  ⟨.str "<Page>", .object, .null,
    [⟨.str "\x7b# id #\x7d", .named (.str "ID") .scalar,
      .str "\"<b>\\\" & \x7b\x7b selection \x7d\x7d", []⟩]⟩

/-- What is composed for the field, with every text in it as it stands in the schema. -/
def quotingText : String :=
  "query \x7b\x7b name \x7d\x7d( $a & b: \x7b% raw %\x7d!)\x7b\n" ++
    "\t\x7b\x7b name \x7d\x7d( a & b: $a & b)\x7b\n" ++
    "\t\t\x7b# id #\x7d # \"<b>\\\" & \x7b\x7b selection \x7d\x7d\n\t\x7d\n\x7d"

theorem composed_quotingField : quotingField.composed "query" quotingType = quotingText := by
  decide +kernel

theorem normalize_quotingText :
    Document.normalize quotingText = .error ⟨.expected .name (.punctuator .braceL), none⟩ := by
  decide +kernel

theorem synthesize_composed_quoting :
    ∃ e, synthesize (.text Template.standardText) ⟨[quotingType]⟩ quotingField "https://api" "query" =
      .error (.composition e quotingText) := by
  have hfound : Schema.find? ⟨[quotingType]⟩ quotingField.type.leafName = some quotingType := by
    simp [Schema.find?, quotingField, quotingType, TypeRef.leafName, Json.same]
  obtain ⟨-, -, hfailed, -⟩ := synthesize_composed ⟨[quotingType]⟩ quotingField quotingType "query"
    "https://api" (.text Template.standardText) (.inr rfl) hfound (by decide) (by decide)
  exact ⟨_, (hfailed _ _).mpr ⟨composed_quotingField.symm, normalize_quotingText, by decide⟩⟩

end RequestBook
