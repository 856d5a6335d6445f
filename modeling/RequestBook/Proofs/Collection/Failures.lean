import Mathlib
import RequestBook.Proofs.Collection.FreeText
import RequestBook.Proofs.Schema.Reference
import RequestBook.Schema.File

/-!
# How making a collection from a file fails

Between a schema file and its collection, most that can go wrong is told to the user in one line.
A few failures are not told: a file that is not in UTF-8, a number or an escape that is read no
further, a place that cannot be shown, an introspection result of the wrong shape, and a root field
whose name is no text. None of them comes from a file that is no JSON, or whose result has the shape
of an introspection result with names throughout.
-/

namespace RequestBook

/-- Failures that end a run without being told to the user. -/
inductive Failure.Escapes : Failure → Prop
  | undecodable : Escapes .undecodable
  | hugeNumber (digits : Nat) : Escapes (.hugeNumber digits)
  | cutEscape : Escapes .cutEscape
  | unplaceable : Escapes .unplaceable
  | shape (fault : ShapeFault) : Escapes (.shape fault)
  | unnamed : Escapes (.invalidCollection [⟨[.member "name"], .notString⟩])

/-- What a failure is where `sound` holds, and what else it may be where it does not. -/
def Failure.ToldIf (sound : Prop) (f : Failure) : Prop :=
  f.isReported = true ∨ f.Escapes ∧ ¬ sound

namespace Failure

variable {sound sound' : Prop} {f : Failure}

theorem ToldIf.mono (h : f.ToldIf sound) (hs : sound' → sound) : f.ToldIf sound' :=
  h.imp id fun ⟨he, hn⟩ => ⟨he, fun hsound => hn (hs hsound)⟩

theorem ToldIf.isReported (h : f.ToldIf sound) (hs : sound) : f.isReported = true :=
  h.resolve_right fun ⟨_, hn⟩ => hn hs

end Failure

open Failure

/-! ## The shape of a result -/

namespace Json

/-- An object that has members of the given names. -/
def HasMembers (names : List String) (j : Json) : Prop :=
  ∃ members, j = .obj members ∧ ∀ n ∈ names, ∃ value, members.lookup n = some value

/-- A list of items of one shape, or what counts as absent. -/
def ListsOnly (shape : Json → Prop) (j : Json) : Prop :=
  j.truthy = false ∨ ∃ items, j = .arr items ∧ ∀ x ∈ items, shape x

def ArgumentShape (j : Json) : Prop := j.HasMembers ["name", "type"]

def FieldShape (j : Json) : Prop :=
  j.HasMembers ["name", "type"] ∧ (j.memberOrNull "args").ListsOnly ArgumentShape

def TypeShape (j : Json) : Prop :=
  j.HasMembers ["name"] ∧ (j.memberOrNull "fields").ListsOnly FieldShape ∧
    (j.memberOrNull "inputFields").ListsOnly FieldShape

/-- If a result lists types at all, they have the shape of types. -/
def ResultShape (result : Json) : Prop :=
  ∀ node types, Schema.node? result = some node → node.memberOrNull "types" = .arr types →
    ∀ t ∈ types, TypeShape t

theorem HasMembers.exists_required {names : List String} {j : Json} (h : j.HasMembers names)
    {name : String} (hname : name ∈ names) : ∃ value, j.required name = .ok value := by
  obtain ⟨members, rfl, hmembers⟩ := h
  obtain ⟨value, hvalue⟩ := hmembers name hname
  exact ⟨value, by rw [required, hvalue]⟩

theorem ListsOnly.exists_parts {shape : Json → Prop} {j : Json} (h : j.ListsOnly shape) :
    ∃ items, j.parts = .ok items ∧ ∀ x ∈ items, shape x := by
  rcases h with h | ⟨items, rfl, hitems⟩
  · exact ⟨[], by simp [parts, h], by simp⟩
  · cases items with
    | nil => exact ⟨[], rfl, by simp⟩
    | cons x rest => exact ⟨x :: rest, rfl, hitems⟩

theorem ListsOnly.map {α : Type} {describe : α → Json} {shape : Json → Prop}
    (h : ∀ x, shape (describe x)) (items : List α) :
    (arr (items.map describe)).ListsOnly shape := by
  refine .inr ⟨_, rfl, fun j hj => ?_⟩
  obtain ⟨x, -, rfl⟩ := List.mem_map.mp hj
  exact h x

end Json

/-! ## Reading a result -/

theorem failsOnly_required (name : String) (j : Json) :
    FailsOnly (fun e => ∃ fault, e = .shape fault) (j.required name) := by
  intro e h
  unfold Json.required at h
  split at h
  · split at h
    · cases h
    · cases h
      exact ⟨_, rfl⟩
  · cases h
    exact ⟨_, rfl⟩

theorem failsOnly_parts (j : Json) : FailsOnly (fun e => ∃ fault, e = .shape fault) j.parts := by
  intro e h
  unfold Json.parts at h
  split at h
  · cases h
  · split at h <;> cases h
    exact ⟨_, rfl⟩

/-- What fails for its shape does not fail where the shape is right. -/
theorem toldIf_of_shape {α : Type} {x : Except Failure α} {sound : Prop}
    (h : FailsOnly (fun e => ∃ fault, e = .shape fault) x) (hok : sound → ∃ a, x = .ok a) :
    FailsOnly (ToldIf sound) x := by
  intro e he
  obtain ⟨fault, rfl⟩ := h e he
  refine .inr ⟨.shape fault, fun hs => ?_⟩
  obtain ⟨a, ha⟩ := hok hs
  rw [ha] at he
  cases he

/-- Items that are read one after the other, if there are any. -/
theorem toldIf_items {α : Type} {shape : Json → Prop} {read : Json → Except Failure α}
    (hread : ∀ j, FailsOnly (ToldIf (shape j)) (read j)) (j : Json) :
    FailsOnly (ToldIf (j.ListsOnly shape)) (j.parts >>= fun items => items.mapM read) := by
  refine (toldIf_of_shape (failsOnly_parts j) fun h => ?_).bind fun items hitems => ?_
  · obtain ⟨items, hitems, -⟩ := h.exists_parts
    exact ⟨items, hitems⟩
  · refine FailsOnly.mapM fun x hx => (hread x).mono fun e he => he.mono fun h => ?_
    obtain ⟨items', hitems', hshape⟩ := h.exists_parts
    cases hitems.symm.trans hitems'
    exact hshape x hx

theorem isReported_of_integrity {α : Type} {x : Except Failure α}
    (h : FailsOnly (fun e => ∃ fault, e = .integrity fault) x) :
    FailsOnly (·.isReported = true) x := by
  refine h.mono fun e he => ?_
  obtain ⟨fault, rfl⟩ := he
  rfl

theorem failsOnly_kind (j : Json) : FailsOnly (·.isReported = true) (Kind.ofJson j) :=
  isReported_of_integrity (Kind.failsOnly_ofJson j)

/-- A reference that cannot be read is always told. -/
theorem failsOnly_reference (j : Json) : FailsOnly (·.isReported = true) (TypeRef.ofJson j) :=
  isReported_of_integrity (TypeRef.failsOnly_integrity j)

/-- A member that has to be there, followed by what fails only where the shape is wrong. -/
theorem toldIf_required {α : Type} {sound : Prop} {names : List String} {name : String} {j : Json}
    {next : Json → Except Failure α} (hsound : sound → j.HasMembers names) (hname : name ∈ names)
    (hnext : ∀ value, FailsOnly (ToldIf sound) (next value)) :
    FailsOnly (ToldIf sound) (j.required name >>= next) :=
  (toldIf_of_shape (failsOnly_required name j) fun h => (hsound h).exists_required hname).bind
    fun value _ => hnext value

theorem failsOnly_of_told {α : Type} {sound : Prop} {x : Except Failure α}
    (h : FailsOnly (·.isReported = true) x) : FailsOnly (ToldIf sound) x :=
  h.mono fun _ => Or.inl

theorem toldIf_argument (j : Json) : FailsOnly (ToldIf j.ArgumentShape) (Argument.ofJson j) :=
  toldIf_required id (by simp) fun _ => toldIf_required id (by simp) fun type =>
    (failsOnly_of_told (failsOnly_reference type)).bind fun _ _ => .ok _

theorem toldIf_field (j : Json) : FailsOnly (ToldIf j.FieldShape) (Field.ofJson j) :=
  toldIf_required And.left (by simp) fun _ => toldIf_required And.left (by simp) fun type =>
    (failsOnly_of_told (failsOnly_reference type)).bind fun type _ => by
      have harguments : j.FieldShape → (j.memberOrNull "args").ListsOnly Json.ArgumentShape :=
        And.right
      have hitems := (toldIf_items toldIf_argument (j.memberOrNull "args")).mono
        fun _ he => he.mono harguments
      rw [← bind_assoc]
      exact hitems.bind fun _ _ => .ok _

theorem toldIf_type (j : Json) : FailsOnly (ToldIf j.TypeShape) (SchemaType.ofJson j) := by
  have hobject : FailsOnly (ToldIf j.TypeShape) j.objectMembers := by
    refine toldIf_of_shape (fun e he => ?_) ?_
    · unfold Json.objectMembers at he
      split at he <;> cases he
      exact ⟨_, rfl⟩
    · rintro ⟨⟨members, rfl, -⟩, -⟩
      exact ⟨members, rfl⟩
  refine hobject.bind fun _ _ => (failsOnly_of_told (failsOnly_kind _)).bind fun kind _ =>
    toldIf_required And.left (by simp) fun _ => ?_
  have hfields : j.TypeShape → (j.memberOrNull kind.fieldsMember).ListsOnly Json.FieldShape := by
    rintro ⟨-, hfields, hinputs⟩
    rw [Kind.fieldsMember]
    split
    · exact hinputs
    · exact hfields
  have hitems := (toldIf_items toldIf_field (j.memberOrNull kind.fieldsMember)).mono
    fun _ he => he.mono hfields
  rw [← bind_assoc]
  exact hitems.bind fun _ _ => .ok _

theorem toldIf_result (result : Json) :
    FailsOnly (ToldIf result.ResultShape) (Schema.ofJson result) := by
  rw [Schema.ofJson]
  split
  · exact .error (.inl rfl)
  · next node hnode =>
    split
    · next types htypes =>
      refine FailsOnly.map (FailsOnly.mapM fun t ht => ?_) _
      exact (toldIf_type t).mono fun _ he => he.mono fun hshape => hshape node types hnode htypes t ht
    · exact .error (.inl rfl)

/-! ## The shape of a description -/

namespace DefinedSchema

variable (s : DefinedSchema)

theorem argumentShape_describedInput (v : InputValue) : (s.describedInput v).ArgumentShape :=
  ⟨_, rfl, by simp [List.lookup_cons]⟩

theorem fieldShape_describedInput (v : InputValue) : (s.describedInput v).FieldShape :=
  ⟨s.argumentShape_describedInput v, .inl rfl⟩

theorem fieldShape_describedField (f : DefinedField) : (s.describedField f).FieldShape :=
  ⟨⟨_, rfl, by simp [List.lookup_cons]⟩, .map s.argumentShape_describedInput f.arguments⟩

theorem typeShape_describedType (t : DefinedType) : (s.describedType t).TypeShape := by
  refine ⟨⟨_, rfl, by simp [List.lookup_cons]⟩, ?_, ?_⟩
  · change (s.describedFields t.body).ListsOnly Json.FieldShape
    cases t.body with
    | object interfaces fields => exact .map s.fieldShape_describedField fields
    | interface interfaces fields => exact .map s.fieldShape_describedField fields
    | _ => exact .inl rfl
  · change (s.describedInputs t.body).ListsOnly Json.FieldShape
    cases t.body with
    | input fields => exact .map s.fieldShape_describedInput fields
    | _ => exact .inl rfl

theorem resultShape_describe : s.describe.ResultShape := by
  rintro node types hnode htypes t ht
  cases hnode
  cases htypes
  obtain ⟨d, -, rfl⟩ := List.mem_map.mp ht
  exact s.typeShape_describedType d

end DefinedSchema

/-! ## Reading a file -/

namespace Schema

/-- A schema that is defined can be read from its description unless a type has too many
wrappers. -/
theorem failsOnly_describe (s : DefinedSchema) :
    FailsOnly (·.isReported = true) (Schema.ofJson s.describe) :=
  fun e he => (toldIf_result s.describe e he).isReported s.resultShape_describe

theorem failsOnly_message (text : List Char) (fault : DefinitionFault) :
    FailsOnly Failure.Escapes (fault.message text) := by
  have hplaced (message : Option String) :
      FailsOnly Failure.Escapes (DefinitionFault.message.placed message) := by
    cases message with
    | none => exact .error .unplaceable
    | some message => exact .ok message
  rw [DefinitionFault.message.eq_def]
  split
  · exact .error .cutEscape
  · exact hplaced _
  · exact FailsOnly.mapError (fun _ _ => trivial) fun digits _ => .hugeNumber digits
  · exact hplaced _
  · exact .ok _
  · exact hplaced _

theorem failsOnly_ofDefinitions (file text : String) :
    FailsOnly (ToldIf False) (Schema.ofDefinitions file text) := by
  refine FailsOnly.bind (FailsOnly.mapError (fun _ _ => trivial) fun fault _ => ?_) fun s _ =>
    failsOnly_of_told (failsOnly_describe s)
  rw [DefinitionFault.failure]
  split
  · exact .inl rfl
  · next failure h => exact .inr ⟨failsOnly_message _ fault failure h, id⟩

/-- A text that is no JSON, though not for the size of a number, or that writes a result of the
right shape with names throughout. -/
structure IsDump (text : String) : Prop where
  small : ∀ digits index, Json.parse text ≠ .error ⟨.hugeNumber digits, index⟩
  shape : ∀ result, Json.parse text = .ok result → result.ResultShape
  named : ∀ result s, Json.parse text = .ok result → Schema.ofJson result = .ok s → s.Named

theorem toldIf_ofDump (file text : String) :
    FailsOnly (ToldIf (IsDump text)) (Schema.ofDump file text) := by
  unfold Schema.ofDump
  split
  · next result hresult =>
    exact (toldIf_result result).mono fun _ he => he.mono fun h => h.shape result hresult
  · next digits index hfault =>
    exact .error (.inr ⟨.hugeNumber digits, fun h => h.small digits index hfault⟩)
  · exact .error (.inl rfl)

end Schema

/-! ## Making a request -/

section Request

variable {s : Schema} {f : Field} {url : String}

theorem failsOnly_argumentTexts (f : Field) :
    FailsOnly (ToldIf False) (Formatter.plain.argumentTexts f) := by
  refine FailsOnly.bind (FailsOnly.mapM fun a _ => FailsOnly.bind ?_ fun _ _ => .ok _) fun _ _ => .ok _
  change FailsOnly _ a.format
  rw [Argument.format]
  split
  · exact .ok _
  · exact .error (.inr ⟨.shape _, id⟩)

theorem failsOnly_fieldFormat (f : Field) : FailsOnly (ToldIf False) f.format := by
  have hsuffix : FailsOnly (ToldIf False) (descriptionSuffix f.description) := by
    unfold descriptionSuffix
    split
    · exact .ok _
    · split
      · exact .ok _
      · exact .ok _
      · exact .error (.inr ⟨.shape _, id⟩)
  refine hsuffix.bind fun _ _ => ?_
  split
  · exact .ok _
  · exact .error (.inr ⟨.shape _, id⟩)

theorem failsOnly_selection (t : SchemaType) :
    FailsOnly (ToldIf False) (Formatter.plain.selection t) := by
  rw [Formatter.selection]
  split
  · exact (FailsOnly.mapM fun f _ => failsOnly_fieldFormat f).bind fun _ _ => .ok _
  · exact .ok _

theorem failsOnly_normalizeSource (source : String) :
    FailsOnly (ToldIf False) (normalizeSource source) := by
  unfold normalizeSource
  split
  · exact .ok _
  · split
    · exact .error (.inr ⟨.cutEscape, id⟩)
    · exact .error (.inl rfl)

theorem failsOnly_item (c : Composition) (name : Json) (hurl : IsAbsolute url) :
    FailsOnly (ToldIf False) (c.item name url) := by
  obtain ⟨endpoint, hendpoint⟩ := Endpoint.exists_ofUrl hurl
  rw [Composition.item, hendpoint]
  cases name with
  | str text => exact .ok _
  | _ => exact .error (.inr ⟨.unnamed, id⟩)

/-- A request to an absolute URL fails in a way that is told, or that ends the run. -/
theorem failsOnly_synthesize (s : Schema) (f : Field) (operation : String) (hurl : IsAbsolute url) :
    FailsOnly (ToldIf False) (synthesize .standard s f url operation) := by
  have hreturned : FailsOnly (ToldIf False) (s.returned f) := by
    rw [Schema.returned]
    split
    · exact .ok _
    · exact .error (.inl rfl)
  have hselection : FailsOnly (ToldIf False) (s.selection f) :=
    hreturned.bind fun t _ => failsOnly_selection t
  rw [synthesize_eq]
  refine (failsOnly_argumentTexts f).bind fun _ _ => hselection.bind fun _ _ => ?_
  exact (FailsOnly.ok Template.standard).bind fun _ _ =>
    (failsOnly_normalizeSource _).bind fun _ _ => failsOnly_item _ f.name hurl

/-- A request whose names are names fails in ways that are told only. -/
theorem failsOnly_synthesize_named (hf : f.Named)
    (ht : ∀ t, s.find? f.type.leafName = some t → t.Named) (kind : OperationKind)
    (hurl : IsAbsolute url) :
    FailsOnly (·.isReported = true) (synthesize .standard s f url kind.keyword) := by
  cases hfind : s.find? f.type.leafName with
  | none =>
    rw [synthesize_missing kind url hf hfind]
    exact .error rfl
  | some t =>
    by_cases hdoubled : f.Doubled
    · obtain ⟨e, source, h⟩ := synthesize_doubled kind url hf (ht t hfind) hfind hdoubled
      rw [h]
      exact .error rfl
    · obtain ⟨endpoint, hendpoint⟩ := Endpoint.exists_ofUrl hurl
      rw [synthesize_sound kind url hf (ht t hfind) hfind hdoubled, hendpoint]
      exact .ok _

end Request

/-! ## Making a collection -/

namespace Schema

variable {url : String}

theorem toldIf_requestAlone {s : Schema} {root : Field × String} (hroot : root ∈ s.rootFields)
    (hurl : IsAbsolute url) :
    FailsOnly (ToldIf s.Named) (s.requestAlone .standard url root) := by
  intro e he
  rw [requestAlone_eq] at he
  by_cases hs : s.Named
  · obtain ⟨kind, hkind⟩ := keyword_of_mem_rootFields hroot
    rw [hkind] at he
    exact .inl (failsOnly_synthesize_named (hs.roots root hroot) (hs.returned root hroot) kind hurl e he)
  · exact (failsOnly_synthesize s root.1 root.2 hurl e he).imp id fun ⟨hescapes, _⟩ => ⟨hescapes, hs⟩

theorem toldIf_assemble (s : Schema) (hurl : IsAbsolute url) :
    FailsOnly (ToldIf s.Named) (s.assemble .standard url) := by
  cases hq : s.query? with
  | none =>
    rw [assemble_of_noQuery hq]
    exact .error (.inl rfl)
  | some q =>
    obtain ⟨endpoint, hendpoint⟩ := Endpoint.exists_ofUrl hurl
    rw [assemble_of_query hq, hendpoint]
    exact (FailsOnly.mapM fun root hroot => toldIf_requestAlone hroot hurl).bind fun _ _ => .ok _

end Schema

/-- A file in UTF-8 that holds no definitions but a dump. -/
def HoldsDump (name : String) (bytes : List UInt8) : Prop :=
  holdsDefinitions name = false ∧ ∃ text, fileText bytes = .ok text ∧ Schema.IsDump text

theorem Schema.IsDump.named_of_ofDump {file text : String} (h : IsDump text) {s : Schema}
    (hs : ofDump file text = .ok s) : s.Named := by
  unfold ofDump at hs
  split at hs
  · next result hresult => exact h.named result s hresult hs
  · cases hs
  · cases hs

theorem toldIf_ofFile (name : String) (bytes : List UInt8) {url : String} (hurl : IsAbsolute url) :
    FailsOnly (ToldIf (HoldsDump name bytes))
      ((Schema.ofFile name bytes).bind (Schema.assemble .standard · url)) := by
  change FailsOnly _ (Schema.ofFile name bytes >>= (Schema.assemble .standard · url))
  rw [Schema.ofFile, bind_assoc]
  refine FailsOnly.bind (fun e he => ?_) fun text htext => ?_
  · unfold fileText at he
    split at he
    · cases he
    · next hdecode =>
      cases he
      refine .inr ⟨.undecodable, ?_⟩
      rintro ⟨-, text, htext, -⟩
      rw [fileText, hdecode] at htext
      cases htext
  · split
    · next hdefinitions =>
      have hnone : ¬ HoldsDump name bytes := fun h => by rw [h.1] at hdefinitions; cases hdefinitions
      refine FailsOnly.bind ?_ fun s _ => ?_
      · exact (Schema.failsOnly_ofDefinitions name text).mono fun _ he => he.mono hnone
      · exact (Schema.toldIf_assemble s hurl).mono fun _ he => he.mono fun h => absurd h hnone
    · have hdump : HoldsDump name bytes → Schema.IsDump text := by
        rintro ⟨-, text', htext', h⟩
        cases htext.symm.trans htext'
        exact h
      refine FailsOnly.bind ?_ fun s hs => ?_
      · exact (Schema.toldIf_ofDump name text).mono fun _ he => he.mono hdump
      · exact (Schema.toldIf_assemble s hurl).mono fun _ he => he.mono fun h =>
          (hdump h).named_of_ofDump hs

/-- Making a collection from a file for an absolute URL ends with the collection, or with a failure
that the user is told about, or with one of few others, which no dump leads to. -/
theorem ofFile_assemble_outcome (name : String) (bytes : List UInt8) (url : String)
    (hurl : IsAbsolute url) :
    (∃ c, (Schema.ofFile name bytes).bind (Schema.assemble .standard · url) = .ok c) ∨
      ∃ f, (Schema.ofFile name bytes).bind (Schema.assemble .standard · url) = .error f ∧
        (f.isReported = true ∨ f.Escapes ∧ ¬ HoldsDump name bytes) := by
  cases h : (Schema.ofFile name bytes).bind (Schema.assemble .standard · url) with
  | ok c => exact .inl ⟨c, rfl⟩
  | error f => exact .inr ⟨f, rfl, toldIf_ofFile name bytes hurl f h⟩

/-- The dump of a schema that has only a query type without fields. -/
def queryDump : String :=
  "\x7b\"__schema\":\x7b\"types\":[\x7b\"kind\":\"OBJECT\",\"name\":\"Query\"\x7d]\x7d\x7d"

def queryResult : Json :=
  .obj [("__schema", .obj [("types", .arr [.obj [("kind", .str "OBJECT"), ("name", .str "Query")]])])]

set_option maxRecDepth 60000 in
theorem fileText_queryDump : fileText queryDump.toUTF8.toList = .ok queryDump := by
  cbv

set_option maxRecDepth 60000 in
theorem parse_queryDump : Json.parse queryDump = .ok queryResult := by
  cbv

theorem isDump_queryDump : Schema.IsDump queryDump where
  small _ _ h := by rw [parse_queryDump] at h; cases h
  shape result h := by
    rw [parse_queryDump] at h
    cases h
    intro node types hnode htypes
    cases hnode
    cases htypes
    intro t ht
    obtain rfl := List.mem_singleton.mp ht
    exact ⟨⟨_, rfl, by simp [List.lookup_cons]⟩, .inl rfl, .inl rfl⟩
  named result s h hs := by
    rw [parse_queryDump] at h
    cases h
    have hschema : Schema.ofJson queryResult = .ok ⟨[⟨.str "Query", .object, .null, []⟩]⟩ := rfl
    cases hschema.symm.trans hs
    exact ⟨by simp [Schema.rootFields, Schema.query?, Schema.mutation?, Schema.find?, Json.same],
      by simp [Schema.rootFields, Schema.query?, Schema.mutation?, Schema.find?, Json.same]⟩

theorem ofFile_assemble_outcome_queryDump :
    (∃ c, (Schema.ofFile "schema.json" queryDump.toUTF8.toList).bind
        (Schema.assemble .standard · "https://api") = .ok c) ∨
      ∃ f, (Schema.ofFile "schema.json" queryDump.toUTF8.toList).bind
        (Schema.assemble .standard · "https://api") = .error f ∧ f.isReported = true := by
  have hdump : HoldsDump "schema.json" queryDump.toUTF8.toList :=
    ⟨by decide +kernel, queryDump, fileText_queryDump, isDump_queryDump⟩
  refine (ofFile_assemble_outcome "schema.json" _ "https://api" (by decide)).imp id ?_
  rintro ⟨f, hf, htold⟩
  exact ⟨f, hf, htold.resolve_right fun h => h.2 hdump⟩

/-- The dump of a schema with a type that has no name. -/
def namelessDump : String :=
  "\x7b\"__schema\":\x7b\"types\":[\x7b\"kind\":\"OBJECT\"\x7d]\x7d\x7d"

set_option maxRecDepth 60000 in
theorem fileText_namelessDump : fileText namelessDump.toUTF8.toList = .ok namelessDump := by
  cbv

set_option maxRecDepth 60000 in
theorem parse_namelessDump : Json.parse namelessDump =
    .ok (.obj [("__schema", .obj [("types", .arr [.obj [("kind", .str "OBJECT")]])])]) := by
  cbv

theorem ofFile_namelessDump : Schema.ofFile "schema.json" namelessDump.toUTF8.toList =
    .error (.shape (.missingMember "name")) := by
  have hdefinitions : holdsDefinitions "schema.json" = false := by decide +kernel
  rw [Schema.ofFile, fileText_namelessDump]
  change (if holdsDefinitions "schema.json" = true then _ else Schema.ofDump _ namelessDump) = _
  rw [if_neg (by simp [hdefinitions]), Schema.ofDump, parse_namelessDump]
  rfl

/-- A type without a name is not told to the user. -/
theorem not_forall_ofFile_isReported :
    ¬ ∀ name bytes url, IsAbsolute url →
      (∃ c, (Schema.ofFile name bytes).bind (Schema.assemble .standard · url) = .ok c) ∨
        ∃ f, (Schema.ofFile name bytes).bind (Schema.assemble .standard · url) = .error f ∧
          f.isReported = true := by
  intro h
  have hnameless := h "schema.json" namelessDump.toUTF8.toList "https://api" (by decide)
  rw [ofFile_namelessDump] at hnameless
  rcases hnameless with ⟨c, hc⟩ | ⟨f, hf, htold⟩
  · cases hc
  · cases hf
    cases htold

end RequestBook
