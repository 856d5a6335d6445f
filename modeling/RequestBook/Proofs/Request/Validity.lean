import RequestBook.Proofs.Request.Synthesis
import RequestBook.Proofs.Schema.Validity

/-!
# Requests that fit their schema

A selection fits a type if it names fields of that type, asks for parts of what has parts and of
nothing else, and gives every field the arguments that it requires. What is emitted for a field of
a root type always has the right shape and calls that field with all its arguments. The fields of
the returned type are selected without any, so that the request fits exactly if none of those that
are leaves requires one.
-/

namespace RequestBook

/-- An argument that has to be given. -/
def Argument.IsRequired (a : Argument) : Prop := a.type.kind = .nonNull ∧ a.defaultValue = .null

/-- Arguments give a field all that it requires. -/
def Field.Supplied (f : Field) (given : List ValueArgument) : Prop :=
  ∀ a ∈ f.arguments, a.IsRequired → ∃ v ∈ given, a.name = .str v.name

/-- A selection names fields of a type that are given what is asked of arguments, and it selects
parts of exactly what has parts. -/
inductive Fits (s : Schema) (supplied : Field → List ValueArgument → Prop) :
    SchemaType → Selection → Prop where
  | typename (parent : SchemaType) (label : Option String) (directives : List Directive) :
      Fits s supplied parent (.field label "__typename" [] directives [])
  | leaf {parent : SchemaType} {f : Field} {name : String} {given : List ValueArgument}
      (label : Option String) (directives : List Directive) (mem : f ∈ parent.fields)
      (named : f.name = .str name) (leaf : f.type.leafKind.isLeaf = true)
      (supplies : supplied f given) :
      Fits s supplied parent (.field label name given directives [])
  | branch {parent returned : SchemaType} {f : Field} {name : String} {given : List ValueArgument}
      {selections : List Selection} (label : Option String) (directives : List Directive)
      (mem : f ∈ parent.fields) (named : f.name = .str name)
      (branch : f.type.leafKind.isLeaf = false) (supplies : supplied f given)
      (type : returned ∈ s.types) (returns : returned.name = f.type.leafName)
      (some : selections ≠ []) (parts : ∀ x ∈ selections, Fits s supplied returned x) :
      Fits s supplied parent (.field label name given directives selections)

/-- The type at the root of an operation. -/
def Schema.root? (s : Schema) : OperationKind → Option SchemaType
  | .query => s.query?
  | .mutation => s.mutation?
  | .subscription => none

variable {s : Schema} {supplied : Field → List ValueArgument → Prop} {root t : SchemaType}
  {f : Field} {parent : Kind}

/-! ## The root field -/

/-- The arguments of a root field, each with the variable of its name. -/
def Field.given (f : Field) : List ValueArgument :=
  f.arguments.map fun a => ⟨a.name.plain, .variable a.name.plain, none⟩

/-- What is selected of a returned type, without arguments. -/
def SchemaType.selections (t : SchemaType) : List Selection :=
  t.selected.map fun leaf => .field none leaf [] [] []

theorem Field.supplied_given (h : ∀ a ∈ f.arguments, a.name.IsName) : f.Supplied f.given :=
  fun a ha _ => ⟨_, List.mem_map_of_mem ha, (h a ha).eq_str⟩

theorem SchemaType.ValidIn.selected_eq_nil (h : t.ValidIn s) :
    t.selected = [] ↔ t.kind ≠ .object := by
  by_cases ht : t.kind = .object
  · have hfields : t.fields ≠ [] := h.shape.mpr (by rw [ht]; rfl)
    have hsome : t.selected ≠ [] := by
      rw [SchemaType.selected, if_pos ⟨ht, by simpa using hfields⟩]
      split
      · exact List.cons_ne_nil _ _
      · assumption
    exact iff_of_false hsome (not_not_intro ht)
  · have hnone : t.selected = [] := by rw [SchemaType.selected, if_neg (fun h => ht h.1)]
    exact iff_of_true hnone ht

/-- What is selected of an object are its leaves, or the name of its type. -/
theorem SchemaType.mem_selected {leaf : String} (h : leaf ∈ t.selected) :
    leaf = "__typename" ∨ ∃ g ∈ t.fields, g.type.leafKind.isLeaf = true ∧ g.name.plain = leaf := by
  rw [SchemaType.selected] at h
  split at h
  · split at h
    · exact .inl (List.mem_singleton.mp h)
    · obtain ⟨g, hg, rfl⟩ := List.mem_map.mp h
      obtain ⟨hmem, hleaf⟩ := List.mem_filter.mp hg
      exact .inr ⟨g, hmem, hleaf, rfl⟩
  · cases h

theorem SchemaType.mem_selected_of_leaf (ht : t.kind = .object) {g : Field} (hg : g ∈ t.fields)
    (hleaf : g.type.leafKind.isLeaf = true) : g.name.plain ∈ t.selected := by
  have hfields : t.fields ≠ [] := List.ne_nil_of_mem hg
  have hmem : g.name.plain ∈ t.leaves := List.mem_map_of_mem (List.mem_filter.mpr ⟨hg, hleaf⟩)
  rw [SchemaType.selected, if_pos ⟨ht, by simpa using hfields⟩, if_neg (List.ne_nil_of_mem hmem)]
  exact hmem

theorem SchemaType.ValidIn.fits_selections (h : t.ValidIn s)
    (hsupplied : ∀ g ∈ t.fields, g.type.leafKind.isLeaf = true → supplied g []) :
    ∀ x ∈ t.selections, Fits s supplied t x := by
  intro x hx
  obtain ⟨leaf, hleaf, rfl⟩ := List.mem_map.mp hx
  rcases SchemaType.mem_selected hleaf with rfl | ⟨g, hg, hkind, rfl⟩
  · exact .typename t none []
  · exact .leaf none [] hg (h.fields g hg).name.eq_str hkind (hsupplied g hg hkind)

/-- A root field that returns leaves or an object fits its type if what is selected of these fits
and every field is given what is asked. -/
theorem Field.ValidIn.fits (hf : f.ValidIn s parent) (hmem : f ∈ root.fields) (ht : t ∈ s.types)
    (hname : t.name = f.type.leafName) (hkind : t.kind = f.type.leafKind) (hvalid : t.ValidIn s)
    (hreturns : f.type.leafKind.isLeaf = true ∨ f.type.leafKind = .object)
    (hsupplied : supplied f f.given) (hparts : ∀ x ∈ t.selections, Fits s supplied t x) :
    Fits s supplied root (.field none f.name.plain f.given [] t.selections) := by
  rcases hreturns with hleaf | hobject
  · have hnone : t.selections = [] := by
      have hselected := hvalid.selected_eq_nil.mpr (by rw [hkind]; rintro h; rw [h] at hleaf; cases hleaf)
      rw [SchemaType.selections, hselected, List.map_nil]
    rw [hnone]
    exact .leaf none [] hmem hf.name.eq_str hleaf hsupplied
  · have hsome : t.selections ≠ [] := by
      rw [SchemaType.selections, ne_eq, List.map_eq_nil_iff, hvalid.selected_eq_nil, not_not, hkind,
        hobject]
    exact .branch none [] hmem hf.name.eq_str (by rw [hobject]; rfl) hsupplied ht hname hsome hparts

/-! ## What a fitting selection asks of the schema -/

theorem Fits.inv {label : Option String} {name : String} {given : List ValueArgument}
    {directives : List Directive} {selections : List Selection}
    (h : Fits s supplied t (.field label name given directives selections)) :
    (name = "__typename" ∧ selections = []) ∨
      ∃ g ∈ t.fields, g.name = .str name ∧ supplied g given ∧
        (selections = [] ∨ ∃ u ∈ s.types, u.name = g.type.leafName ∧
          ∀ x ∈ selections, Fits s supplied u x) := by
  cases h with
  | typename => exact .inl ⟨rfl, rfl⟩
  | leaf _ _ mem named _ supplies => exact .inr ⟨_, mem, named, supplies, .inl rfl⟩
  | branch _ _ mem named _ supplies type returns _ parts =>
    exact .inr ⟨_, mem, named, supplies, .inr ⟨_, type, returns, parts⟩⟩

theorem Field.ValidIn.ne_typename (h : f.ValidIn s parent) : f.name.plain ≠ "__typename" := by
  intro hname
  have hunreserved := h.unreserved
  rw [hname] at hunreserved
  exact absurd hunreserved (by decide +kernel)

/-- A field of a type that fits as a part of it is given what is asked. -/
theorem SchemaType.ValidIn.supplied_of_fits (h : t.ValidIn s) {g : Field} (hg : g ∈ t.fields)
    {label : Option String} {given : List ValueArgument} {directives : List Directive}
    {selections : List Selection}
    (hfits : Fits s supplied t (.field label g.name.plain given directives selections)) :
    supplied g given ∧ (selections = [] ∨ ∃ u ∈ s.types, u.name = g.type.leafName ∧
      ∀ x ∈ selections, Fits s supplied u x) := by
  rcases hfits.inv with ⟨hname, -⟩ | ⟨g', hg', hname, hsupplied, hparts⟩
  · exact absurd hname (h.fields g hg).ne_typename
  · have hsame : g' = g :=
      List.inj_on_of_nodup_map h.distinct hg' hg (hname.trans (h.fields g hg).name.eq_str.symm)
    exact hsame ▸ ⟨hsupplied, hparts⟩

/-- None of the leaves of a type requires an argument. -/
def SchemaType.Undemanding (t : SchemaType) : Prop :=
  ∀ g ∈ t.fields, g.type.leafKind.isLeaf = true → ∀ a ∈ g.arguments, ¬ a.IsRequired

theorem Field.supplied_nil_iff : f.Supplied [] ↔ ∀ a ∈ f.arguments, ¬ a.IsRequired := by
  simp [Field.Supplied]

theorem SchemaType.ValidIn.undemanding_of_fits (h : t.ValidIn s) (hobject : t.kind = .object)
    (hfits : ∀ x ∈ t.selections, Fits s Field.Supplied t x) : t.Undemanding := by
  intro g hg hleaf
  have hmem : Selection.field none g.name.plain [] [] [] ∈ t.selections :=
    List.mem_map_of_mem (SchemaType.mem_selected_of_leaf hobject hg hleaf)
  exact Field.supplied_nil_iff.mp (h.supplied_of_fits hg (hfits _ hmem)).1

theorem SchemaType.ValidIn.undemanding_of_isLeaf (h : t.ValidIn s) (hleaf : t.kind.isLeaf = true) :
    t.Undemanding := by
  intro g hg
  have hfields := h.shape.mp (List.ne_nil_of_mem hg)
  rw [Kind.hasFields_of_isLeaf hleaf] at hfields
  cases hfields

/-! ## What is emitted -/

theorem Schema.Valid.validIn_root (hs : s.Valid) {kind : OperationKind} (h : s.root? kind = some root) :
    root.ValidIn s := by
  cases kind with
  | query => exact hs.types root (Schema.Valid.mem_of_find? h)
  | mutation => exact hs.types root (Schema.Valid.mem_of_find? h)
  | subscription => cases h

theorem parse_query_of_synthesize {kind : OperationKind} {url : String} (hf : f.Named) (ht : t.Named)
    (hfound : s.find? f.type.leafName = some t) (hdoubled : ¬ f.Doubled) {item : Item}
    (hitem : synthesize .standard s f url kind.keyword = .ok item) :
    Document.parse item.request.body.query = .ok (f.document kind t) := by
  rw [synthesize_sound kind url hf ht hfound hdoubled] at hitem
  cases he : Endpoint.ofUrl url with
  | error failure =>
    rw [he] at hitem
    cases hitem
  | ok e =>
    rw [he] at hitem
    cases hitem
    rw [← document_call]
    exact (hf.call ht kind).parse_print (Field.not_doubled_parameter hdoubled kind t)

/-- What is selected under a root field fits the schema exactly if no leaf of the returned type
requires an argument. -/
theorem Schema.Valid.fits_iff (hs : s.Valid) (hroot : root.ValidIn s) (hmem : f ∈ root.fields)
    (hreturns : f.type.leafKind.isLeaf = true ∨ f.type.leafKind = .object) (ht : t ∈ s.types)
    (hname : t.name = f.type.leafName) (hkind : t.kind = f.type.leafKind) :
    Fits s Field.Supplied root (.field none f.name.plain f.given [] t.selections) ↔
      t.Undemanding := by
  have hf := hroot.fields f hmem
  have hvalid := hs.types t ht
  constructor
  · intro hfits
    rcases hreturns with hleaf | hobject
    · exact hvalid.undemanding_of_isLeaf (hkind ▸ hleaf)
    · have htobject : t.kind = .object := hkind.trans hobject
      rcases (hroot.supplied_of_fits hmem hfits).2 with hnone | ⟨u, hu, huname, hparts⟩
      · rw [SchemaType.selections, List.map_eq_nil_iff, hvalid.selected_eq_nil] at hnone
        exact absurd htobject hnone
      · obtain rfl := hs.eq_of_name ht hu (hname.trans huname.symm)
        exact hvalid.undemanding_of_fits htobject hparts
  · intro hundemanding
    have hgiven : f.Supplied f.given := Field.supplied_given fun a ha => (hf.arguments a ha).name
    refine hf.fits hmem ht hname hkind hvalid hreturns hgiven (hvalid.fits_selections ?_)
    exact fun g hg hleaf => Field.supplied_nil_iff.mpr (hundemanding g hg hleaf)

/-- For a field of a root type that returns leaves or an object, what is emitted calls the field with
all that it requires and asks for parts of exactly what has parts. It fits the schema throughout
exactly if no leaf of the returned type requires an argument. -/
theorem synthesize_fits (hs : s.Valid) {kind : OperationKind} (hroot : s.root? kind = some root)
    (hmem : f ∈ root.fields) (hreturns : f.type.leafKind.isLeaf = true ∨ f.type.leafKind = .object)
    (url : String) :
    (IsAbsolute url → ∃ item, synthesize .standard s f url kind.keyword = .ok item) ∧
    ∀ item, synthesize .standard s f url kind.keyword = .ok item →
      ∃ declared given selections,
        Document.parse item.request.body.query = .ok ⟨[.operation ⟨kind, some f.name.plain,
          declared, [], [.field none f.name.plain given [] selections]⟩]⟩ ∧
        f.Supplied given ∧
        Fits s (fun _ _ => True) root (.field none f.name.plain given [] selections) ∧
        (Fits s Field.Supplied root (.field none f.name.plain given [] selections) ↔
          ∀ t ∈ s.types, t.name = f.type.leafName → t.Undemanding) := by
  have hrootValid := hs.validIn_root hroot
  have hf := hrootValid.fields f hmem
  obtain ⟨t, ht, hname, hkind, hfound⟩ := hs.exists_returned hf.type
  have hvalid := hs.types t ht
  have hnamed := hf.named hs
  constructor
  · intro hurl
    obtain ⟨e, he⟩ := Endpoint.exists_ofUrl hurl
    rw [synthesize_sound kind url hnamed hvalid.named hfound hf.not_doubled, he]
    exact ⟨_, rfl⟩
  · intro item hitem
    refine ⟨_, f.given, t.selections,
      parse_query_of_synthesize hnamed hvalid.named hfound hf.not_doubled hitem,
      Field.supplied_given fun a ha => (hf.arguments a ha).name,
      hf.fits hmem ht hname hkind hvalid hreturns trivial
        (hvalid.fits_selections fun _ _ _ => trivial), ?_⟩
    rw [hs.fits_iff hrootValid hmem hreturns ht hname hkind]
    refine ⟨fun h u hu huname => ?_, fun h => h t ht hname⟩
    exact hs.eq_of_name ht hu (hname.trans huname.symm) ▸ h

/-! ## A leaf that requires an argument -/

def stringType : SchemaType := ⟨.str "String", .scalar, .null, []⟩

def intType : SchemaType := ⟨.str "Int", .scalar, .null, []⟩

def nameField : Field := ⟨.str "name", .named (.str "String") .scalar, .null, []⟩

def sizeArgument : Argument := ⟨.str "size", .nonNull (.named (.str "Int") .scalar), .null, .null⟩

/-- A text that has to be told a size. -/
def avatarField : Field := ⟨.str "avatar", .named (.str "String") .scalar, .null, [sizeArgument]⟩

def ownerType : SchemaType := ⟨.str "Owner", .object, .null, [nameField, avatarField]⟩

def ownerField : Field := ⟨.str "owner", .named (.str "Owner") .object, .null, []⟩

def ownerQuery : SchemaType := ⟨.str "Query", .object, .null, [ownerField]⟩

def ownerSchema : Schema := ⟨[ownerQuery, ownerType, stringType, intType]⟩

theorem validIn_ownerField : ownerField.ValidIn ownerSchema .object where
  name := by decide
  unreserved := by decide +kernel
  description := by decide
  type := ⟨⟨ownerType, by simp [ownerSchema], rfl, rfl⟩, by decide⟩
  kind := rfl
  bare := nofun
  arguments := by simp [ownerField]
  distinct := by simp [ownerField]

theorem validIn_nameField : nameField.ValidIn ownerSchema .object where
  name := by decide
  unreserved := by decide +kernel
  description := by decide
  type := ⟨⟨stringType, by simp [ownerSchema], rfl, rfl⟩, by decide⟩
  kind := rfl
  bare := nofun
  arguments := by simp [nameField]
  distinct := by simp [nameField]

theorem validIn_sizeArgument : sizeArgument.ValidIn ownerSchema where
  name := by decide
  type := ⟨⟨intType, by simp [ownerSchema], rfl, rfl⟩, by decide⟩
  kind := rfl

theorem validIn_avatarField : avatarField.ValidIn ownerSchema .object where
  name := by decide
  unreserved := by decide +kernel
  description := by decide
  type := ⟨⟨stringType, by simp [ownerSchema], rfl, rfl⟩, by decide⟩
  kind := rfl
  bare := nofun
  arguments := List.forall_mem_singleton.mpr validIn_sizeArgument
  distinct := by simp [avatarField]

theorem validIn_scalar {name : String} (h : isName name.toList = true) :
    SchemaType.ValidIn ownerSchema ⟨.str name, .scalar, .null, []⟩ where
  name := ⟨name, rfl, h⟩
  fields := by simp
  distinct := by simp
  shape := by simp [Kind.hasFields]

theorem valid_ownerSchema : ownerSchema.Valid where
  types := by
    refine List.forall_mem_cons.mpr ⟨⟨by decide, List.forall_mem_singleton.mpr validIn_ownerField,
      by simp [ownerQuery], by simp [ownerQuery, Kind.hasFields]⟩, ?_⟩
    refine List.forall_mem_cons.mpr ⟨⟨by decide, List.forall_mem_cons.mpr ⟨validIn_nameField,
      List.forall_mem_singleton.mpr validIn_avatarField⟩, by simp [ownerType, nameField, avatarField],
      by simp [ownerType, Kind.hasFields]⟩, ?_⟩
    exact List.forall_mem_cons.mpr ⟨validIn_scalar (by decide),
      List.forall_mem_singleton.mpr (validIn_scalar (by decide))⟩
  distinct := by simp [ownerSchema, ownerQuery, ownerType, stringType, intType]

theorem root?_ownerSchema : ownerSchema.root? .query = some ownerQuery :=
  valid_ownerSchema.find? (t := ownerQuery) (by simp [ownerSchema])

theorem not_undemanding_ownerType : ¬ ownerType.Undemanding := fun h =>
  h avatarField (by simp [ownerType]) rfl sizeArgument (by simp [avatarField]) ⟨rfl, rfl⟩

/-- The request for an owner is emitted, but it does not fit. -/
theorem synthesize_fits_owner : ∃ item declared given selections,
    synthesize .standard ownerSchema ownerField "http://h/g" "query" = .ok item ∧
    Document.parse item.request.body.query = .ok ⟨[.operation ⟨.query, some "owner", declared, [],
      [.field none "owner" given [] selections]⟩]⟩ ∧
    ¬ Fits ownerSchema Field.Supplied ownerQuery (.field none "owner" given [] selections) := by
  obtain ⟨hemits, hitems⟩ := synthesize_fits valid_ownerSchema root?_ownerSchema
    (f := ownerField) (by simp [ownerQuery]) (.inr rfl) "http://h/g"
  obtain ⟨item, hitem⟩ := hemits (by decide)
  obtain ⟨declared, given, selections, hparse, -, -, hfits⟩ := hitems item hitem
  refine ⟨item, declared, given, selections, hitem, hparse, fun h => ?_⟩
  exact not_undemanding_ownerType (hfits.mp h ownerType (by simp [ownerSchema]) rfl)

/-- Not everything that is emitted for a valid schema fits it. -/
theorem not_forall_synthesize_fits :
    ¬ ∀ (s : Schema) (kind : OperationKind) (root : SchemaType) (f : Field) (url : String) (item : Item),
      s.Valid → s.root? kind = some root → f ∈ root.fields →
      (f.type.leafKind.isLeaf = true ∨ f.type.leafKind = .object) →
      synthesize .standard s f url kind.keyword = .ok item →
      ∃ declared selection,
        Document.parse item.request.body.query =
          .ok ⟨[.operation ⟨kind, some f.name.plain, declared, [], [selection]⟩]⟩ ∧
        Fits s Field.Supplied root selection := by
  intro h
  have hmem : ownerField ∈ ownerQuery.fields := by simp [ownerQuery]
  have htype : ownerType ∈ ownerSchema.types := by simp [ownerSchema]
  have hnamed := validIn_ownerField.named valid_ownerSchema
  have hreturned := (valid_ownerSchema.types ownerType htype).named
  have hfound : ownerSchema.find? ownerField.type.leafName = some ownerType :=
    valid_ownerSchema.find? htype
  have hdoubled := validIn_ownerField.not_doubled
  obtain ⟨e, he⟩ := Endpoint.exists_ofUrl (show IsAbsolute "http://h/g" by decide)
  have hitem := synthesize_sound .query "http://h/g" hnamed hreturned hfound hdoubled
  rw [he] at hitem
  obtain ⟨declared, selection, hparse, hfits⟩ :=
    h ownerSchema .query ownerQuery ownerField "http://h/g" _ valid_ownerSchema root?_ownerSchema hmem
      (.inr rfl) hitem
  rw [parse_query_of_synthesize hnamed hreturned hfound hdoubled hitem] at hparse
  cases hparse
  exact not_undemanding_ownerType ((valid_ownerSchema.fits_iff
    (valid_ownerSchema.validIn_root root?_ownerSchema) hmem (.inr rfl) htype rfl rfl).mp hfits)

end RequestBook
