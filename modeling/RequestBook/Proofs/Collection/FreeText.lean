import RequestBook.Proofs.Collection.Assembly
import RequestBook.Proofs.Request.FreeText

/-!
# Free text in a collection

What a server says in descriptions and default values, and in members that nobody reads, has no
part in the collection that is made of its answer: two answers that differ in nothing else give
the same collection or fail for the same reason.
-/

namespace RequestBook

/-- A schema whose root fields, and the types that they return, have names throughout. -/
structure Schema.Named (s : Schema) : Prop where
  roots : ∀ root ∈ s.rootFields, root.1.Named
  returned : ∀ root ∈ s.rootFields, ∀ t, s.find? root.1.type.leafName = some t → t.Named

namespace Schema

variable {s s' : Schema}

/-- A root field without its free texts. -/
def bareRoot (root : Field × String) : Field × String := (root.1.bare, root.2)

theorem rootFields_bare (s : Schema) : s.bare.rootFields = s.rootFields.map bareRoot := by
  have hfields (t : Option SchemaType) (operation : String) :
      (((t.map SchemaType.bare).map SchemaType.fields).getD []).map (·, operation) =
        (((t.map SchemaType.fields).getD []).map (·, operation)).map bareRoot := by
    cases t with
    | none => rfl
    | some t => simp [SchemaType.bare, bareRoot]
  rw [rootFields, rootFields, query?, mutation?, find?_bare, find?_bare, hfields, hfields,
    List.map_append]
  rfl

theorem keyword_of_mem_rootFields {root : Field × String} (h : root ∈ s.rootFields) :
    ∃ kind : OperationKind, root.2 = kind.keyword := by
  rcases List.mem_append.mp h with h | h
  · obtain ⟨f, -, rfl⟩ := List.mem_map.mp h
    exact ⟨.query, rfl⟩
  · obtain ⟨f, -, rfl⟩ := List.mem_map.mp h
    exact ⟨.mutation, rfl⟩

theorem sameOutcome_requestAlone (hbare : s.bare = s'.bare) (h : s.Named) (h' : s'.Named)
    {root root' : Field × String} (hroot : root ∈ s.rootFields) (hroot' : root' ∈ s'.rootFields)
    (hrootbare : bareRoot root = bareRoot root') (url : String) :
    SameOutcome (s.requestAlone .standard url root) (s'.requestAlone .standard url root') := by
  obtain ⟨kind, hkind⟩ := keyword_of_mem_rootFields hroot
  have hoperation : root'.2 = kind.keyword := (congrArg Prod.snd hrootbare).symm.trans hkind
  rw [requestAlone_eq, requestAlone_eq, hkind, hoperation]
  exact sameOutcome_synthesize hbare (congrArg Prod.fst hrootbare) (h.roots root hroot)
    (h'.roots root' hroot') (h.returned root hroot) (h'.returned root' hroot') kind url

theorem sameOutcome_assemble (hbare : s.bare = s'.bare) (h : s.Named) (h' : s'.Named)
    (url : String) : SameOutcome (s.assemble .standard url) (s'.assemble .standard url) := by
  have hquery : s.query?.map SchemaType.bare = s'.query?.map SchemaType.bare := by
    rw [query?, query?, ← find?_bare, ← find?_bare, hbare]
  have hroots : s.rootFields.map bareRoot = s'.rootFields.map bareRoot := by
    rw [← rootFields_bare, ← rootFields_bare, hbare]
  cases hq : s.query? with
  | none =>
    rw [hq] at hquery
    rw [assemble_of_noQuery hq, assemble_of_noQuery (Option.map_eq_none_iff.mp hquery.symm)]
    exact .error _
  | some q =>
    rw [hq] at hquery
    obtain ⟨q', hq', -⟩ := Option.map_eq_some_iff.mp hquery.symm
    rw [assemble_of_query hq, assemble_of_query hq']
    have hrequests := SameOutcome.mapM bareRoot hroots fun root hroot root' hroot' hrootbare =>
      sameOutcome_requestAlone hbare h h' hroot hroot' hrootbare url
    exact hrequests.bind fun items => .refl _

end Schema

/-- Free text never reaches a collection. -/
theorem sameOutcome_ofResult (result result' : Json) (url : String)
    (hkept : result.kept = result'.kept) (h : ∀ s, Schema.ofJson result = .ok s → s.Named)
    (h' : ∀ s, Schema.ofJson result' = .ok s → s.Named) :
    SameOutcome (Collection.ofResult .standard url result)
      (Collection.ofResult .standard url result') := by
  have hbare : (Schema.ofJson result).map Schema.bare = (Schema.ofJson result').map Schema.bare := by
    rw [← Schema.ofJson_kept, ← Schema.ofJson_kept, hkept]
  rw [Collection.ofResult, Collection.ofResult]
  cases hs : Schema.ofJson result with
  | error e =>
    cases hs' : Schema.ofJson result' with
    | error e' =>
      rw [hs, hs'] at hbare
      cases hbare
      exact .error e
    | ok s' =>
      rw [hs, hs'] at hbare
      cases hbare
  | ok s =>
    cases hs' : Schema.ofJson result' with
    | error e' =>
      rw [hs, hs'] at hbare
      cases hbare
    | ok s' =>
      rw [hs, hs'] at hbare
      exact Schema.sameOutcome_assemble (Except.ok.inj hbare) (h s hs) (h' s' hs') url

/-! ## An answer with free text everywhere -/

/-- A server's answer in which one text stands wherever anything may stand. -/
def answerWith (text : Json) : Json :=
  let leaf : Json := .obj [("kind", .str "SCALAR"), ("name", .str "ID"), ("ofType", text)]
  let user : Json := .obj [("kind", .str "OBJECT"), ("name", .str "User")]
  let argument : Json := .obj [("name", .str "id"), ("description", text), ("defaultValue", text),
    ("type", .obj [("kind", .str "NON_NULL"), ("name", text), ("ofType", leaf)])]
  let queryType : Json := .obj [("kind", .str "OBJECT"), ("name", .str "Query"),
    ("description", text), ("fields", .arr [.obj [("name", .str "user"), ("description", text),
      ("args", .arr [argument]), ("type", user), ("deprecationReason", text)]])]
  let userType : Json := .obj [("kind", .str "OBJECT"), ("name", .str "User"),
    ("description", text), ("fields", .arr [
      .obj [("name", .str "id"), ("description", text), ("type", leaf)],
      .obj [("name", .str "friends"), ("description", text),
        ("type", .obj [("kind", .str "LIST"), ("ofType", user)])]])]
  .obj [("data", .obj [("__schema", .obj [("directives", text),
    ("types", .arr [queryType, userType])])])]

def answeredField (text : Json) : Field :=
  ⟨.str "user", .named (.str "User") .object, text,
    [⟨.str "id", .nonNull (.named (.str "ID") .scalar), text, text⟩]⟩

def answeredType (text : Json) : SchemaType :=
  ⟨.str "User", .object, text,
    [⟨.str "id", .named (.str "ID") .scalar, text, []⟩,
      ⟨.str "friends", .list (.named (.str "User") .object), text, []⟩]⟩

def answeredSchema (text : Json) : Schema :=
  ⟨[⟨.str "Query", .object, text, [answeredField text]⟩, answeredType text]⟩

theorem ofJson_answerWith (text : Json) :
    Schema.ofJson (answerWith text) = .ok (answeredSchema text) := by
  simp [Schema.ofJson_eq, answerWith, answeredSchema, answeredField, answeredType, Schema.node?,
    Json.member?, Json.memberOrNull, List.lookup_cons, List.lookup_nil, Schema.ofTypes,
    SchemaType.ofJson, Field.ofJson, Argument.ofJson, TypeRef.ofJson, Kind.ofJson, Kind.ofSpelling, Kind.isWrapper,
    Kind.fieldsMember, Json.required, Json.parts, Json.objectMembers, Json.truthy, bind,
    Except.bind, pure, Except.pure, Functor.map, Except.map]

theorem kept_answerWith (text : Json) : (answerWith text).kept = (answerWith .null).kept := by
  simp [answerWith, Json.kept, Schema.node?, Json.member?, Json.memberOrNull, List.lookup_cons,
    List.lookup_nil, Json.keep, Json.keepMembers, Json.mapItems, Json.keptType, Json.keptField, Json.keptArgument,
    Json.keptReference, Kind.ofJson, Kind.ofSpelling, Kind.isWrapper, Kind.fieldsMember]

theorem named_answeredSchema {text : Json} (h : text.IsText) : (answeredSchema text).Named := by
  have hroots : (answeredSchema text).rootFields = [(answeredField text, "query")] := by
    simp [Schema.rootFields, Schema.query?, Schema.mutation?, Schema.find?, answeredSchema,
      answeredType, Json.same]
  have hfind : (answeredSchema text).find? (.str "User") = some (answeredType text) := by
    simp [Schema.find?, answeredSchema, answeredType, Json.same]
  constructor
  · intro root hroot
    rw [hroots, List.mem_singleton] at hroot
    rw [hroot]
    exact ⟨⟨"user", rfl, by decide⟩, by simp [answeredField]; decide, by simp [answeredField]; decide⟩
  · intro root hroot t ht
    rw [hroots, List.mem_singleton] at hroot
    rw [hroot] at ht
    obtain rfl := Option.some.inj (hfind.symm.trans ht)
    exact ⟨by simp [answeredType]; decide, by simp [answeredType, h], by simp [answeredType]; decide⟩

theorem sameOutcome_ofResult_answers :
    SameOutcome
      (Collection.ofResult .standard "https://api" (answerWith (.str "a\r\n\x7d # \"\"\" undefined")))
      (Collection.ofResult .standard "https://api" (answerWith .null)) := by
  refine sameOutcome_ofResult _ _ "https://api" (kept_answerWith _) ?_ ?_
  · intro s hs
    obtain rfl := Except.ok.inj ((ofJson_answerWith _).symm.trans hs)
    exact named_answeredSchema (Or.inr ⟨_, rfl⟩)
  · intro s hs
    obtain rfl := Except.ok.inj ((ofJson_answerWith _).symm.trans hs)
    exact named_answeredSchema (Or.inl rfl)

end RequestBook
