import RequestBook.Proofs.Json.Keeping
import RequestBook.Proofs.Schema.Reading

/-!
# Describing a schema

A schema has an introspection result of its own, which holds every type, field and argument at its
place. Reading gives the schema back from it, and from every value that differs from it only in
members that nobody reads and in how lists without items are written. Nothing but such schemas is
ever read.
-/

namespace RequestBook

/-! ## The result of a schema -/

def TypeRef.toJson : TypeRef → Json
  | named name kind => .obj [("kind", .str kind.spelling), ("name", name), ("ofType", .null)]
  | list t => .obj [("kind", .str Kind.list.spelling), ("name", .null), ("ofType", t.toJson)]
  | nonNull t => .obj [("kind", .str Kind.nonNull.spelling), ("name", .null), ("ofType", t.toJson)]

def Argument.toJson (a : Argument) : Json :=
  .obj [("name", a.name), ("description", a.description), ("type", a.type.toJson),
    ("defaultValue", a.defaultValue)]

def Field.toJson (f : Field) : Json :=
  .obj [("name", f.name), ("description", f.description),
    ("args", .arr (f.arguments.map Argument.toJson)), ("type", f.type.toJson)]

def SchemaType.toJson (t : SchemaType) : Json :=
  .obj [("kind", .str t.kind.spelling), ("name", t.name), ("description", t.description),
    (t.kind.fieldsMember, .arr (t.fields.map Field.toJson))]

def Schema.toJson (s : Schema) : Json := .obj [("types", .arr (s.types.map SchemaType.toJson))]

/-! ## Descriptions with more members

Of every object, only the members are named that the description has to have. -/

/-- A member that lists items, one value for each in their order. Without items it may also be null
or absent. -/
def Json.Lists {α : Type} (describes : α → Json → Prop) (items : List α) (name : String)
    (j : Json) : Prop :=
  (∃ values, j.member? name = some (.arr values) ∧ List.Forall₂ describes items values) ∨
    (items = [] ∧ j.memberOrNull name = .null)

def TypeRef.DescribedBy : TypeRef → Json → Prop
  | named name kind, j =>
    j.member? "kind" = some (.str kind.spelling) ∧ j.member? "name" = some name
  | list t, j => j.member? "kind" = some (.str Kind.list.spelling) ∧
    ∃ inner, j.member? "ofType" = some inner ∧ t.DescribedBy inner
  | nonNull t, j => j.member? "kind" = some (.str Kind.nonNull.spelling) ∧
    ∃ inner, j.member? "ofType" = some inner ∧ t.DescribedBy inner

structure Argument.DescribedBy (a : Argument) (j : Json) : Prop where
  name : j.member? "name" = some a.name
  type : ∃ reference, j.member? "type" = some reference ∧ a.type.DescribedBy reference
  description : j.memberOrNull "description" = a.description
  defaultValue : j.memberOrNull "defaultValue" = a.defaultValue

structure Field.DescribedBy (f : Field) (j : Json) : Prop where
  name : j.member? "name" = some f.name
  type : ∃ reference, j.member? "type" = some reference ∧ f.type.DescribedBy reference
  description : j.memberOrNull "description" = f.description
  arguments : j.Lists Argument.DescribedBy f.arguments "args"

structure SchemaType.DescribedBy (t : SchemaType) (j : Json) : Prop where
  kind : j.member? "kind" = some (.str t.kind.spelling)
  name : j.member? "name" = some t.name
  description : j.memberOrNull "description" = t.description
  fields : j.Lists Field.DescribedBy t.fields t.kind.fieldsMember

def Schema.DescribedBy (s : Schema) (j : Json) : Prop :=
  ∃ types, j.member? "types" = some (.arr types) ∧
    List.Forall₂ SchemaType.DescribedBy s.types types

/-- A result that describes a schema: a whole response, or an object around the schema that is no
response. -/
def Schema.ToldBy (s : Schema) (result : Json) : Prop :=
  ∃ node, s.DescribedBy node ∧
    ((∃ data, result.member? "data" = some data ∧ data.member? "__schema" = some node) ∨
      (result.member? "data" = none ∧ result.member? "__schema" = some node))

/-! ## Schemas that can be described -/

/-- A kind with a spelling that stands for no other kind. -/
def Kind.Describable (k : Kind) : Prop := k.spelling ≠ "" ∧ Kind.ofSpelling k.spelling = k

structure TypeRef.Describable (t : TypeRef) : Prop where
  kind : t.leafKind.Describable
  leaf : t.leafKind.isWrapper = false
  name : t.leafName.truthy = true

structure Field.Describable (f : Field) : Prop where
  type : f.type.Describable
  arguments : ∀ a ∈ f.arguments, a.type.Describable

structure SchemaType.Describable (t : SchemaType) : Prop where
  kind : t.kind.Describable
  fields : ∀ f ∈ t.fields, f.Describable

def Schema.Describable (s : Schema) : Prop := ∀ t ∈ s.types, t.Describable

/-! ## The result of a schema describes it -/

theorem Json.lists_map {α : Type} {describes : α → Json → Prop} {toJson : α → Json} {j : Json}
    {name : String} {items : List α} (h : ∀ x ∈ items, describes x (toJson x))
    (hj : j.member? name = some (.arr (items.map toJson))) : j.Lists describes items name :=
  .inl ⟨_, hj, List.forall₂_map_right_iff.mpr (List.forall₂_same.mpr h)⟩

theorem TypeRef.describedBy_toJson (t : TypeRef) : t.DescribedBy t.toJson := by
  induction t with
  | named name kind => exact ⟨rfl, rfl⟩
  | list t ih => exact ⟨rfl, _, rfl, ih⟩
  | nonNull t ih => exact ⟨rfl, _, rfl, ih⟩

theorem Argument.describedBy_toJson (a : Argument) : a.DescribedBy a.toJson :=
  ⟨rfl, ⟨_, rfl, a.type.describedBy_toJson⟩, rfl, rfl⟩

theorem Field.describedBy_toJson (f : Field) : f.DescribedBy f.toJson :=
  ⟨rfl, ⟨_, rfl, f.type.describedBy_toJson⟩, rfl,
    Json.lists_map (fun a _ => a.describedBy_toJson) rfl⟩

theorem SchemaType.member?_fieldsMember_toJson (t : SchemaType) :
    t.toJson.member? t.kind.fieldsMember = some (.arr (t.fields.map Field.toJson)) := by
  rw [toJson, Json.member?, Kind.fieldsMember]
  split <;> rfl

theorem SchemaType.describedBy_toJson (t : SchemaType) : t.DescribedBy t.toJson :=
  ⟨rfl, rfl, rfl, Json.lists_map (fun f _ => f.describedBy_toJson) t.member?_fieldsMember_toJson⟩

theorem Schema.describedBy_toJson (s : Schema) : s.DescribedBy s.toJson :=
  ⟨_, rfl, List.forall₂_map_right_iff.mpr
    (List.forall₂_same.mpr fun t _ => t.describedBy_toJson)⟩

/-! ## A description is read as its schema -/

theorem Json.required_of_member? {j value : Json} {name : String}
    (h : j.member? name = some value) : j.required name = .ok value := by
  obtain ⟨members, rfl, hlookup⟩ := eq_obj_of_member? h
  rw [required, hlookup]

theorem Json.memberOrNull_of_member? {j value : Json} {name : String}
    (h : j.member? name = some value) : j.memberOrNull name = value := by
  rw [memberOrNull, h]
  rfl

theorem Json.parts_arr (items : List Json) : (arr items).parts = .ok items := by
  cases items <;> rfl

/-- Items that are each read from their description are read from a list of descriptions. -/
theorem mapM_of_describes {α : Type} {describes : α → Json → Prop}
    {read : Json → Except Failure α} {items : List α} {values : List Json}
    (h : List.Forall₂ describes items values)
    (hread : ∀ x ∈ items, ∀ value, describes x value → read value = .ok x) :
    values.mapM read = .ok items := by
  rw [mapM_eq_ok]
  induction h with
  | nil => exact .nil
  | cons hx _ ih =>
    exact .cons (hread _ List.mem_cons_self _ hx)
      (ih fun y hy => hread y (List.mem_cons_of_mem _ hy))

theorem Json.Lists.bind_parts {α : Type} {describes : α → Json → Prop}
    {read : Json → Except Failure α} {items : List α} {name : String} {j : Json}
    (h : j.Lists describes items name)
    (hread : ∀ x ∈ items, ∀ value, describes x value → read value = .ok x) :
    ((j.memberOrNull name).parts >>= fun values => values.mapM read) = .ok items := by
  rcases h with ⟨values, hvalues, hall⟩ | ⟨rfl, hnull⟩
  · rw [memberOrNull_of_member? hvalues, parts_arr]
    exact mapM_of_describes hall hread
  · rw [hnull]
    rfl

theorem Kind.Describable.ofJson {k : Kind} (h : k.Describable) :
    Kind.ofJson (.str k.spelling) = .ok k := by
  rw [Kind.ofJson, if_neg h.1, h.2]

/-- A wrapper is read as what it says of its inner part. -/
theorem TypeRef.ofJson_of_wrapper {kind : Kind} (hkind : kind.Describable)
    (hwrapper : kind.isWrapper = true) {t : TypeRef} {j inner : Json}
    (hj : j.member? "kind" = some (.str kind.spelling)) (hinner : j.member? "ofType" = some inner)
    (ht : TypeRef.ofJson inner = .ok t) :
    TypeRef.ofJson j = .ok (if kind = .list then .list t else .nonNull t) := by
  obtain ⟨members, rfl, hlookup⟩ := Json.eq_obj_of_member? hinner
  have hread : Kind.ofJson ((Json.obj members).memberOrNull "kind") = .ok kind := by
    rw [Json.memberOrNull_of_member? hj, hkind.ofJson]
  have hnull : inner ≠ .null := by
    rintro rfl
    rw [TypeRef.ofJson] at ht
    · cases ht
    · simp
  rw [ofJson_wrapper hread hwrapper, hlookup, wrapping, ht]
  · rfl
  · exact hnull

theorem TypeRef.DescribedBy.ofJson {t : TypeRef} {j : Json} (h : t.DescribedBy j)
    (ht : t.Describable) : TypeRef.ofJson j = .ok t := by
  induction t generalizing j with
  | named name kind =>
    obtain ⟨hkind, hname⟩ := h
    obtain ⟨members, rfl, -⟩ := Json.eq_obj_of_member? hkind
    have hread : Kind.ofJson ((Json.obj members).memberOrNull "kind") = .ok kind := by
      rw [Json.memberOrNull_of_member? hkind]
      exact ht.kind.ofJson
    have hleaf : ¬ kind.isWrapper = true := by
      rw [Bool.not_eq_true]
      exact ht.leaf
    rw [ofJson_leaf hread hleaf, Json.memberOrNull_of_member? hname]
    exact if_pos ht.name
  | list t ih =>
    obtain ⟨hkind, inner, hinner, hdescribed⟩ := h
    exact ofJson_of_wrapper ⟨by decide, rfl⟩ rfl hkind hinner (ih hdescribed ⟨ht.1, ht.2, ht.3⟩)
  | nonNull t ih =>
    obtain ⟨hkind, inner, hinner, hdescribed⟩ := h
    exact ofJson_of_wrapper ⟨by decide, rfl⟩ rfl hkind hinner (ih hdescribed ⟨ht.1, ht.2, ht.3⟩)

theorem Argument.DescribedBy.ofJson {a : Argument} {j : Json} (h : a.DescribedBy j)
    (ha : a.type.Describable) : Argument.ofJson j = .ok a := by
  obtain ⟨reference, htype, hreference⟩ := h.type
  rw [Argument.ofJson, Json.required_of_member? h.name, Json.required_of_member? htype]
  change (TypeRef.ofJson reference >>= fun type => _) = _
  rw [hreference.ofJson ha, h.description, h.defaultValue]
  rfl

theorem Field.DescribedBy.ofJson {f : Field} {j : Json} (h : f.DescribedBy j)
    (hf : f.Describable) : Field.ofJson j = .ok f := by
  obtain ⟨reference, htype, hreference⟩ := h.type
  have harguments := h.arguments.bind_parts fun a ha _ hvalue => hvalue.ofJson (hf.arguments a ha)
  rw [Field.ofJson, Json.required_of_member? h.name, Json.required_of_member? htype]
  change (TypeRef.ofJson reference >>= fun type => _) = _
  rw [hreference.ofJson hf.type]
  change ((j.memberOrNull "args").parts >>= fun values => values.mapM Argument.ofJson >>= _) = _
  rw [← bind_assoc, harguments, h.description]
  rfl

theorem SchemaType.DescribedBy.ofJson {t : SchemaType} {j : Json} (h : t.DescribedBy j)
    (ht : t.Describable) : SchemaType.ofJson j = .ok t := by
  obtain ⟨members, rfl, -⟩ := Json.eq_obj_of_member? h.name
  have hfields := h.fields.bind_parts fun f hf _ hvalue => hvalue.ofJson (ht.fields f hf)
  rw [SchemaType.ofJson, Json.memberOrNull_of_member? h.kind, ht.kind.ofJson,
    Json.required_of_member? h.name]
  change (((Json.obj members).memberOrNull t.kind.fieldsMember).parts >>= fun values =>
    values.mapM Field.ofJson >>= _) = _
  rw [← bind_assoc, hfields, h.description]
  rfl

theorem Schema.ToldBy.ofJson {s : Schema} {result : Json} (h : s.ToldBy result)
    (hs : s.Describable) : Schema.ofJson result = .ok s := by
  obtain ⟨node, ⟨types, htypes, hall⟩, hresult⟩ := h
  obtain ⟨members, rfl, -⟩ := Json.eq_obj_of_member? htypes
  have hnode : node? result = some (.obj members) := by
    rcases hresult with ⟨data, hdata, hschema⟩ | ⟨hdata, hschema⟩
    · rw [node?, hdata, Option.getD_some, hschema]
    · rw [node?, hdata, Option.getD_none, hschema]
  have hread := mapM_of_describes hall fun t ht _ hvalue => hvalue.ofJson (hs t ht)
  rw [ofJson_eq, hnode]
  change ofTypes ((Json.obj members).memberOrNull "types") = .ok s
  rw [Json.memberOrNull_of_member? htypes, ofTypes, hread]
  rfl

/-! ## What is read can be described -/

theorem Kind.describable_of_ofJson {j : Json} {k : Kind} (h : Kind.ofJson j = .ok k) :
    k.Describable := by
  unfold Kind.ofJson at h
  split at h
  · next s =>
    split at h
    · cases h
    · next hs =>
      cases h
      rw [Describable, spelling_ofSpelling]
      exact ⟨hs, rfl⟩
  · cases h

theorem TypeRef.describable_of_ofJson {j : Json} {t : TypeRef} (h : TypeRef.ofJson j = .ok t) :
    t.Describable := by
  induction j using Json.keptReference.induct generalizing t with
  | case1 members e hkind =>
    rw [ofJson_badKind hkind] at h
    cases h
  | case2 members kind hwrapper hinner hkind =>
    rw [ofJson_wrapper hkind hwrapper, hinner] at h
    cases h
  | case3 members kind hwrapper inner hinner _ hkind ih =>
    rw [ofJson_wrapper hkind hwrapper, hinner] at h
    obtain ⟨item, hitem, rfl⟩ := wrapping_eq_ok h
    obtain ⟨hleaf, hleafKind, hname⟩ := ih hitem
    split <;> exact ⟨hleaf, hleafKind, hname⟩
  | case4 members kind hleaf hkind =>
    rw [ofJson_leaf hkind hleaf] at h
    split at h
    · next hname =>
      cases h
      exact ⟨Kind.describable_of_ofJson hkind, by simpa [leafKind] using hleaf, hname⟩
    · cases h
  | case5 j hj =>
    cases j with
    | obj members => exact absurd rfl (hj members)
    | _ =>
      rw [TypeRef.ofJson] at h
      · cases h
      · simp

theorem Json.forall_of_mapM {α : Type} {P : α → Prop} {read : Json → Except Failure α}
    {values : List Json} {items : List α} (hread : ∀ j x, read j = .ok x → P x)
    (h : values.mapM read = .ok items) : ∀ x ∈ items, P x := by
  have hall := mapM_eq_ok.mp h
  clear h
  induction hall with
  | nil => simp
  | cons hx _ ih => exact List.forall_mem_cons.mpr ⟨hread _ _ hx, ih⟩

theorem Argument.describable_of_ofJson {j : Json} {a : Argument} (h : Argument.ofJson j = .ok a) :
    a.type.Describable := by
  obtain ⟨name, -, h⟩ := bind_eq_ok.mp h
  obtain ⟨reference, -, h⟩ := bind_eq_ok.mp h
  obtain ⟨type, htype, h⟩ := bind_eq_ok.mp h
  cases h
  exact TypeRef.describable_of_ofJson htype

theorem Field.describable_of_ofJson {j : Json} {f : Field} (h : Field.ofJson j = .ok f) :
    f.Describable := by
  obtain ⟨name, -, h⟩ := bind_eq_ok.mp h
  obtain ⟨reference, -, h⟩ := bind_eq_ok.mp h
  obtain ⟨type, htype, h⟩ := bind_eq_ok.mp h
  obtain ⟨values, -, h⟩ := bind_eq_ok.mp h
  obtain ⟨arguments, harguments, h⟩ := bind_eq_ok.mp h
  cases h
  exact ⟨TypeRef.describable_of_ofJson htype,
    Json.forall_of_mapM (fun _ _ => Argument.describable_of_ofJson) harguments⟩

theorem SchemaType.describable_of_ofJson {j : Json} {t : SchemaType}
    (h : SchemaType.ofJson j = .ok t) : t.Describable := by
  obtain ⟨members, -, h⟩ := bind_eq_ok.mp h
  obtain ⟨kind, hkind, h⟩ := bind_eq_ok.mp h
  obtain ⟨name, -, h⟩ := bind_eq_ok.mp h
  obtain ⟨values, -, h⟩ := bind_eq_ok.mp h
  obtain ⟨fields, hfields, h⟩ := bind_eq_ok.mp h
  cases h
  exact ⟨Kind.describable_of_ofJson hkind,
    Json.forall_of_mapM (fun _ _ => Field.describable_of_ofJson) hfields⟩

theorem Schema.describable_of_ofJson {result : Json} {s : Schema}
    (h : Schema.ofJson result = .ok s) : s.Describable := by
  rw [ofJson_eq] at h
  split at h
  · cases h
  · unfold ofTypes at h
    split at h
    · next types _ =>
      cases htypes : types.mapM SchemaType.ofJson with
      | error e =>
        rw [htypes] at h
        cases h
      | ok read =>
        rw [htypes] at h
        cases h
        exact Json.forall_of_mapM (fun _ _ => SchemaType.describable_of_ofJson) htypes
    · cases h

/-! ## Reading undoes describing -/

/-- A schema is read from every result that tells it, its own result being one such whole and as
the data of a response. What cannot be described is never read. -/
theorem Schema.ofJson_undoes_description :
    (∀ s : Schema, s.Describable → ∀ result, s.ToldBy result → Schema.ofJson result = .ok s) ∧
    (∀ s : Schema, s.ToldBy (.obj [("__schema", s.toJson)]) ∧
      s.ToldBy (.obj [("data", .obj [("__schema", s.toJson)])])) ∧
    (∀ s result, Schema.ofJson result = .ok s → s.Describable) := by
  refine ⟨fun s hs result h => h.ofJson hs, fun s => ⟨?_, ?_⟩, fun s result => ?_⟩
  · exact ⟨s.toJson, s.describedBy_toJson, .inr ⟨rfl, rfl⟩⟩
  · exact ⟨s.toJson, s.describedBy_toJson, .inl ⟨_, rfl, rfl⟩⟩
  · exact Schema.describable_of_ofJson

/-- Points of an unknown kind, and a query that takes one. -/
def pointSchema : Schema :=
  ⟨[⟨.str "Point", .inputObject, .null,
      [⟨.str "x", .nonNull (.named (.str "Int") .scalar), .null, []⟩]⟩,
    ⟨.str "Query", .object, .str "Start here",
      [⟨.str "near", .list (.named (.str "Spot") (.other "PLACE")), .null,
        [⟨.str "point", .named (.str "Point") .inputObject, .null, .str "\x7bx: 0\x7d"⟩]⟩]⟩]⟩

/-- A response about points, with members that nobody reads and lists that are left out. -/
def pointResponse : Json :=
  let number : Json := .obj [("name", .str "Int"), ("kind", .str "SCALAR"), ("fields", .arr [.null])]
  let x : Json := .obj [("name", .str "x"), ("defaultValue", .str "1"), ("args", .null),
    ("type", .obj [("kind", .str "NON_NULL"), ("name", .str "Int"), ("ofType", number)])]
  let point : Json := .obj [("kind", .str "INPUT_OBJECT"), ("fields", .bool true),
    ("name", .str "Point"), ("inputFields", .arr [x])]
  let argument : Json := .obj [("type", .obj [("kind", .str "INPUT_OBJECT"),
    ("name", .str "Point")]), ("name", .str "point"), ("defaultValue", .str "\x7bx: 0\x7d")]
  let near : Json := .obj [("name", .str "near"), ("isDeprecated", .bool false),
    ("args", .arr [argument]), ("type", .obj [("ofType", .obj [("kind", .str "PLACE"),
      ("name", .str "Spot"), ("ofType", .int 3)]), ("kind", .str "LIST")])]
  let queryType : Json := .obj [("name", .str "Query"), ("description", .str "Start here"),
    ("kind", .str "OBJECT"), ("fields", .arr [near]), ("inputFields", .null)]
  .obj [("errors", .null), ("data", .obj [("data", .null), ("__schema", .obj [
    ("queryType", .null), ("types", .arr [point, queryType])])])]

theorem describable_pointSchema : pointSchema.Describable := by
  have hnumber : (TypeRef.named (.str "Int") .scalar).Describable :=
    ⟨⟨by decide, rfl⟩, rfl, rfl⟩
  have hplace : (TypeRef.named (.str "Spot") (.other "PLACE")).Describable :=
    ⟨⟨by decide, rfl⟩, rfl, rfl⟩
  have hpoint : (TypeRef.named (.str "Point") .inputObject).Describable :=
    ⟨⟨by decide, rfl⟩, rfl, rfl⟩
  refine List.forall_mem_cons.mpr ⟨⟨⟨by decide, rfl⟩, ?_⟩, List.forall_mem_singleton.mpr
    ⟨⟨by decide, rfl⟩, ?_⟩⟩
  · exact List.forall_mem_singleton.mpr ⟨⟨hnumber.1, hnumber.2, hnumber.3⟩, by simp⟩
  · exact List.forall_mem_singleton.mpr
      ⟨⟨hplace.1, hplace.2, hplace.3⟩, List.forall_mem_singleton.mpr hpoint⟩

theorem toldBy_pointResponse : pointSchema.ToldBy pointResponse := by
  refine ⟨_, ⟨_, rfl, .cons ?_ (.cons ?_ .nil)⟩, .inl ⟨_, rfl, rfl⟩⟩
  · refine ⟨rfl, rfl, rfl, .inl ⟨_, rfl, .cons ?_ .nil⟩⟩
    exact ⟨rfl, ⟨_, rfl, rfl, _, rfl, rfl, rfl⟩, rfl, .inr ⟨rfl, rfl⟩⟩
  · refine ⟨rfl, rfl, rfl, .inl ⟨_, rfl, .cons ?_ .nil⟩⟩
    refine ⟨rfl, ⟨_, rfl, rfl, _, rfl, rfl, rfl⟩, rfl, .inl ⟨_, rfl, .cons ?_ .nil⟩⟩
    exact ⟨rfl, ⟨_, rfl, rfl, rfl⟩, rfl, rfl⟩

theorem Schema.ofJson_undoes_description_points :
    pointSchema.Describable ∧ Schema.ofJson pointResponse = .ok pointSchema :=
  ⟨describable_pointSchema, Schema.ofJson_undoes_description.1 pointSchema describable_pointSchema
    pointResponse toldBy_pointResponse⟩

end RequestBook
