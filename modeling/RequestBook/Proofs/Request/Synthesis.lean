import RequestBook.Proofs.Request.Endpoint
import RequestBook.Proofs.Request.Source
import RequestBook.Proofs.Request.Stages

/-!
# What becomes of a root field

A request is made in stages: the returned type is looked up, the composed text is read, and the
URL is taken apart. Each stage fails for one reason only, and where none fails the request means
the call of the field.
-/

namespace RequestBook

open RootCall

variable {s : Schema} {f : Field} {t : SchemaType} (kind : OperationKind) (url : String)

/-! ## The stages -/

theorem synthesize_missing (hf : f.Named) (h : s.find? f.type.leafName = none) :
    synthesize .standard s f url kind.keyword = .error (.unknownType f.type.leafName) := by
  have hselection : s.selection f = .error (.unknownType f.type.leafName) := by
    rw [Schema.selection, Schema.returned, h]
    rfl
  rw [synthesize_eq, hf.argumentTexts, hselection]
  rfl

/-- Once a selection is made, everything hangs on the reading of the composed text and then on the
URL. -/
theorem synthesize_of_selection {source : TemplateSource} {template : Template}
    (hsource : source.load = .ok template) (hf : ∀ a ∈ f.arguments, a.name.IsString)
    (h : s.find? f.type.leafName = some t) {selection : String}
    (hselection : Formatter.plain.selection t = .ok selection) (operation : String) :
    synthesize source s f url operation =
      normalizeSource (template.render (f.templateInput operation selection)) >>=
        fun query => (Composition.mk query f.values).item f.name url := by
  have hselected : s.selection f = .ok selection := by
    rw [Schema.selection, Schema.returned, h]
    exact hselection
  rw [synthesize_eq, argumentTexts_of_isString hf, hselected, hsource]
  rfl

/-- The composed text spells the call, whatever is in the comments. -/
theorem synthesize_found (hf : f.Named) (ht : t.Named) (h : s.find? f.type.leafName = some t) :
    ∃ source, Spelling (f.call kind t).lexemes source.toList ∧
      synthesize .standard s f url kind.keyword =
        normalizeSource source >>= fun query => (Composition.mk query f.values).item f.name url := by
  obtain ⟨selection, hselection, hempty, hspelling⟩ := ht.exists_selection
  exact ⟨_, hf.spelling_source kind hempty hspelling,
    synthesize_of_selection url rfl hf.strings h hselection kind.keyword⟩

/-- A text that spells a call without doubled marks means that call. -/
theorem normalizeSource_call {c : RootCall} (hc : ∀ p ∈ c.parameters, ¬ p.2.Doubled)
    {source : String} (h : Spelling c.lexemes source.toList) :
    normalizeSource source = .ok c.document.print := by
  rw [normalizeSource, Document.normalize, Document.parse_of_spelling h, ofTokens_lexemes c hc]
  rfl

/-- All texts that spell a call with a doubled mark are refused for one reason. -/
theorem normalizeSource_doubled {c : RootCall} (hc : ∃ p ∈ c.parameters, p.2.Doubled) :
    ∃ e, ∀ source : String, Spelling c.lexemes source.toList →
      normalizeSource source = .error (.composition e source) := by
  obtain ⟨w, hw⟩ := exists_ofTokens_lexemes_error c hc
  refine ⟨⟨.expected (.punctuator w) (.punctuator .bang), none⟩, fun source h => ?_⟩
  rw [normalizeSource, Document.normalize, Document.parse_of_spelling h, hw]
  rfl

/-- The item of a composed request, for an endpoint. -/
def Composition.itemAt (c : Composition) (name : String) (e : Endpoint) : Item :=
  ⟨name, ⟨"POST", [], ⟨"graphql", c.query, c.values⟩, e⟩, []⟩

theorem item_of_isName (c : Composition) {name : Json} (h : name.IsName) :
    c.item name url = (Endpoint.ofUrl url).map (c.itemAt name.plain) := by
  rw [h.eq_str, Composition.item]
  cases Endpoint.ofUrl url <;> rfl

theorem synthesize_doubled (hf : f.Named) (ht : t.Named) (h : s.find? f.type.leafName = some t)
    (hdoubled : f.Doubled) :
    ∃ e source, synthesize .standard s f url kind.keyword = .error (.composition e source) := by
  obtain ⟨source, hspelling, hsynthesize⟩ := synthesize_found kind url hf ht h
  obtain ⟨e, he⟩ := normalizeSource_doubled ((f.exists_doubled_parameter kind t).mpr hdoubled)
  refine ⟨e, source, ?_⟩
  rw [hsynthesize, he source hspelling]
  rfl

/-- Without doubled marks, the request holds the printed call and fails with its URL only. -/
theorem synthesize_sound (hf : f.Named) (ht : t.Named) (h : s.find? f.type.leafName = some t)
    (hdoubled : ¬ f.Doubled) :
    synthesize .standard s f url kind.keyword = (Endpoint.ofUrl url).map
      ((Composition.mk (f.call kind t).document.print f.values).itemAt f.name.plain) := by
  obtain ⟨source, hspelling, hsynthesize⟩ := synthesize_found kind url hf ht h
  rw [hsynthesize, normalizeSource_call (Field.not_doubled_parameter hdoubled kind t) hspelling]
  exact item_of_isName url _ hf.name

/-! ## The meaning of a request -/

/-- The document that a root field stands for: one operation, named like the field, that declares
one variable per argument, passes each on under its name and selects the leaves of the returned
type. -/
def Field.document (kind : OperationKind) (f : Field) (t : SchemaType) : Document :=
  ⟨[.operation ⟨kind, some f.name.plain,
    f.arguments.map fun a => ⟨a.name.plain, a.type.expr, none, []⟩, [],
    [.field none f.name.plain
      (f.arguments.map fun a => ⟨a.name.plain, .variable a.name.plain, none⟩) []
      (t.selected.map fun leaf => .field none leaf [] [] [])]⟩]⟩

theorem document_call (kind : OperationKind) (f : Field) (t : SchemaType) :
    (f.call kind t).document = f.document kind t := by
  simp only [RootCall.document, RootCall.operation, RootCall.selection, Field.call,
    Field.document, List.map_map]
  rfl

/-- A request can be made of every field with names throughout and an absolute URL, and its query
means exactly the document of the field. -/
theorem synthesize_means_document (s : Schema) (f : Field) (t : SchemaType) (kind : OperationKind)
    (url : String) (hfound : s.find? f.type.leafName = some t) (hf : f.Named) (ht : t.Named)
    (hdoubled : ¬ f.Doubled) (hurl : IsAbsolute url) :
    ∃ item, synthesize .standard s f url kind.keyword = .ok item ∧
      Document.parse item.request.body.query = .ok (f.document kind t) := by
  have hsynthesize := synthesize_sound kind url hf ht hfound hdoubled
  obtain ⟨e, he⟩ := Endpoint.exists_ofUrl hurl
  rw [he] at hsynthesize
  refine ⟨_, hsynthesize, ?_⟩
  rw [← document_call]
  exact (hf.call ht kind).parse_print (Field.not_doubled_parameter hdoubled kind t)

/-- A type whose fields are described in ways that end a line, a comment or a block. -/
def userType : SchemaType :=
  ⟨.str "User", .object, .null,
    [⟨.str "id", .nonNull (.named (.str "ID") .scalar), .str "key\n\x7d mutation \x7b drop \x7d", []⟩,
      ⟨.str "friends", .list (.named (.str "User") .object), .str "# \"\"\"\r\n\x7d", []⟩,
      ⟨.str "role", .named (.str "Role") .enum, .null, []⟩,
      ⟨.str "pet", .named (.str "Pet") (.other "GHOST"), .str "undefined", []⟩]⟩

/-- A field with more arguments than stand on one line. -/
def usersField : Field :=
  ⟨.str "users", .nonNull (.list (.named (.str "User") .object)), .null,
    [⟨.str "first", .nonNull (.named (.str "Int") .scalar), .null, .null⟩,
      ⟨.str "ids", .nonNull (.list (.nonNull (.named (.str "ID") .scalar))), .str "a\nb", .null⟩,
      ⟨.str "role", .named (.str "Role") .enum, .null, .str "ADMIN"⟩,
      ⟨.str "where", .list (.list (.named (.str "Filter") .inputObject)), .null, .null⟩]⟩

theorem find?_userType : Schema.find? ⟨[userType]⟩ (.str "User") = some userType := by
  simp [Schema.find?, userType, Json.same]

theorem synthesize_means_document_users :
    ∃ item, synthesize .standard ⟨[userType]⟩ usersField "https://api.example.com/graphql" "query" =
        .ok item ∧
      Document.parse item.request.body.query = .ok ⟨[.operation ⟨.query, some "users",
        [⟨"first", .nonNull (.named "Int"), none, []⟩,
          ⟨"ids", .nonNull (.list (.nonNull (.named "ID"))), none, []⟩,
          ⟨"role", .named "Role", none, []⟩,
          ⟨"where", .list (.list (.named "Filter")), none, []⟩], [],
        [.field none "users"
          [⟨"first", .variable "first", none⟩, ⟨"ids", .variable "ids", none⟩,
            ⟨"role", .variable "role", none⟩, ⟨"where", .variable "where", none⟩] []
          [.field none "id" [] [] [], .field none "role" [] [] []]]⟩]⟩ :=
  synthesize_means_document ⟨[userType]⟩ usersField userType .query
    "https://api.example.com/graphql" find?_userType (by decide) (by decide) (by decide) (by decide)

/-! ## The failures -/

/-- No type of the schema has the name. -/
def Schema.Lacks (s : Schema) (name : Json) : Prop := ∀ t ∈ s.types, t.name.same name = false

theorem Schema.find?_eq_none_iff {name : Json} : s.find? name = none ↔ s.Lacks name := by
  rw [Schema.find?, List.find?_eq_none, Schema.Lacks]
  simp only [Bool.not_eq_true]

/-- A request fails because the returned type is missing, because a type has doubled marks, or
because the URL is relative, in this order and for no other reason. -/
theorem synthesize_outcome (s : Schema) (f : Field) (kind : OperationKind) (url : String)
    (hf : f.Named) (ht : ∀ t, s.find? f.type.leafName = some t → t.Named) :
    (synthesize .standard s f url kind.keyword = .error (.unknownType f.type.leafName) ↔
      s.Lacks f.type.leafName) ∧
    ((∃ e source, synthesize .standard s f url kind.keyword = .error (.composition e source)) ↔
      ¬ s.Lacks f.type.leafName ∧ f.Doubled) ∧
    (synthesize .standard s f url kind.keyword = .error (.relativeUrl url) ↔
      ¬ s.Lacks f.type.leafName ∧ ¬ f.Doubled ∧ ¬ IsAbsolute url) ∧
    ((∃ item, synthesize .standard s f url kind.keyword = .ok item) ↔
      ¬ s.Lacks f.type.leafName ∧ ¬ f.Doubled ∧ IsAbsolute url) ∧
    ∀ failure, synthesize .standard s f url kind.keyword = .error failure →
      failure = .unknownType f.type.leafName ∨ (∃ e source, failure = .composition e source) ∨
        failure = .relativeUrl url := by
  cases hfind : s.find? f.type.leafName with
  | none =>
    have hlacks := Schema.find?_eq_none_iff.mp hfind
    have h := synthesize_missing kind url hf hfind
    simp [h, hlacks]
  | some t =>
    have hlacks : ¬ s.Lacks f.type.leafName := by
      rw [← Schema.find?_eq_none_iff, hfind]
      exact Option.some_ne_none t
    have htn := ht t hfind
    by_cases hdoubled : f.Doubled
    · obtain ⟨e, source, h⟩ := synthesize_doubled kind url hf htn hfind hdoubled
      simp [h, hlacks, hdoubled]
    · have h := synthesize_sound kind url hf htn hfind hdoubled
      by_cases hurl : IsAbsolute url
      · obtain ⟨e, he⟩ := Endpoint.exists_ofUrl hurl
        rw [he, Except.map] at h
        simp [h, hlacks, hdoubled, hurl]
      · rw [Endpoint.ofUrl_relative hurl, Except.map] at h
        simp [h, hlacks, hdoubled, hurl]

/-- As `usersField`, with doubled marks inside of a list. -/
def doubledField : Field :=
  { usersField with arguments :=
    usersField.arguments ++ [⟨.str "tags",
      .list (.nonNull (.nonNull (.named (.str "Tag") .scalar))), .null, .null⟩] }

/-- Doubled marks come before the URL and behind a missing type. -/
theorem synthesize_outcome_users :
    (∃ item, synthesize .standard ⟨[userType]⟩ usersField "https://api" "mutation" = .ok item) ∧
    synthesize .standard ⟨[userType]⟩ usersField "api" "query" = .error (.relativeUrl "api") ∧
    (∃ e source, synthesize .standard ⟨[userType]⟩ doubledField "api" "query" =
      .error (.composition e source)) ∧
    synthesize .standard ⟨[]⟩ doubledField "api" "query" = .error (.unknownType (.str "User")) :=
  have hlacks : ¬ Schema.Lacks ⟨[userType]⟩ (.str "User") := by
    rw [← Schema.find?_eq_none_iff, find?_userType]
    exact Option.some_ne_none userType
  have hnamed : ∀ t, Schema.find? ⟨[userType]⟩ (.str "User") = some t → t.Named := by
    rintro t ht
    obtain rfl := Option.some.inj (find?_userType.symm.trans ht)
    decide
  ⟨(synthesize_outcome _ usersField .mutation "https://api" (by decide) hnamed).2.2.2.1.mpr
      ⟨hlacks, by decide, by decide⟩,
    (synthesize_outcome _ usersField .query "api" (by decide) hnamed).2.2.1.mpr
      ⟨hlacks, by decide, by decide⟩,
    (synthesize_outcome _ doubledField .query "api" (by decide) hnamed).2.1.mpr
      ⟨hlacks, by decide⟩,
    (synthesize_outcome ⟨[]⟩ doubledField .query "api" (by decide) (by simp [Schema.find?])).1.mpr
      (by simp [Schema.Lacks])⟩

end RequestBook
