import RequestBook.Proofs.Document.Printing
import RequestBook.Request.Synthesis

/-!
# The call that a root field stands for

A root field with the type that it returns stands for one call: its arguments become parameters of
the same types, and the leaves among the fields of the returned type are selected. Nothing here
looks at a description, at a default value or at the wrappers of a returned type.
-/

namespace RequestBook

/-! ## Names and texts of a schema -/

def Json.IsString (j : Json) : Prop := ∃ s, j = .str s

/-- A name of the request language. -/
def Json.IsName (j : Json) : Prop := ∃ s, j = .str s ∧ isName s.toList = true

/-- What a description has to be: a text or nothing. -/
def Json.IsText (j : Json) : Prop := j = .null ∨ ∃ s, j = .str s

/-- A kind that is spelled on one line. -/
def Kind.IsLine (k : Kind) : Prop := ∀ c ∈ k.spelling.toList, c ≠ '\r' ∧ c ≠ '\n'

/-- The names that a field brings into its request. -/
structure Field.Named (f : Field) : Prop where
  name : f.name.IsName
  arguments : ∀ a ∈ f.arguments, a.name.IsName
  types : ∀ a ∈ f.arguments, a.type.leafName.IsName

/-- What the fields of a returned type bring into the request. -/
structure SchemaType.Named (t : SchemaType) : Prop where
  names : ∀ g ∈ t.fields, g.name.IsName
  descriptions : ∀ g ∈ t.fields, g.description.IsText
  kinds : ∀ g ∈ t.fields, g.type.leafKind.IsLine

instance (j : Json) : Decidable j.IsString :=
  match j with
  | .str s => isTrue ⟨s, rfl⟩
  | .null | .bool _ | .int _ | .float _ | .arr _ | .obj _ => isFalse fun ⟨_, hs⟩ => nomatch hs

instance (j : Json) : Decidable j.IsName :=
  match j with
  | .str s => decidable_of_iff (isName s.toList = true)
      ⟨fun h => ⟨s, rfl, h⟩, fun ⟨_, hs, h⟩ => by cases hs; exact h⟩
  | .null | .bool _ | .int _ | .float _ | .arr _ | .obj _ => isFalse fun ⟨_, hs, _⟩ => nomatch hs

instance (j : Json) : Decidable j.IsText :=
  match j with
  | .null => isTrue (Or.inl rfl)
  | .str s => isTrue (Or.inr ⟨s, rfl⟩)
  | .bool _ | .int _ | .float _ | .arr _ | .obj _ => isFalse fun h => by
    rcases h with h | ⟨_, h⟩ <;> cases h

instance (k : Kind) : Decidable k.IsLine :=
  decidable_of_iff (k.spelling.toList.all fun c => c != '\r' && c != '\n')
    (by simp [Kind.IsLine])

instance (f : Field) : Decidable f.Named :=
  decidable_of_iff (f.name.IsName ∧ (∀ a ∈ f.arguments, a.name.IsName) ∧
    ∀ a ∈ f.arguments, a.type.leafName.IsName)
    ⟨fun ⟨hname, harguments, htypes⟩ => ⟨hname, harguments, htypes⟩,
      fun h => ⟨h.name, h.arguments, h.types⟩⟩

instance (t : SchemaType) : Decidable t.Named :=
  decidable_of_iff ((∀ g ∈ t.fields, g.name.IsName) ∧ (∀ g ∈ t.fields, g.description.IsText) ∧
    ∀ g ∈ t.fields, g.type.leafKind.IsLine)
    ⟨fun ⟨hnames, hdescriptions, hkinds⟩ => ⟨hnames, hdescriptions, hkinds⟩,
      fun h => ⟨h.names, h.descriptions, h.kinds⟩⟩

theorem Json.IsName.plain {j : Json} (h : j.IsName) : isName j.plain.toList = true := by
  obtain ⟨s, rfl, hs⟩ := h
  exact hs

theorem Json.IsName.isString {j : Json} (h : j.IsName) : j.IsString := by
  obtain ⟨s, hs, -⟩ := h
  exact ⟨s, hs⟩

theorem Json.IsString.eq_str {j : Json} (h : j.IsString) : j = .str j.plain := by
  obtain ⟨s, rfl⟩ := h
  rfl

theorem Json.IsName.eq_str {j : Json} (h : j.IsName) : j = .str j.plain := h.isString.eq_str

theorem Json.IsString.isKey {j : Json} (h : j.IsString) : j.isKey = true := by
  obtain ⟨s, rfl⟩ := h
  rfl

/-- What is the same as a text is that text. -/
theorem Json.IsString.same {j k : Json} (h : j.IsString) : j.same k = true ↔ j = k := by
  obtain ⟨n, rfl⟩ := h
  cases k <;> simp [Json.same, Json.number?]

theorem Field.Named.strings {f : Field} (h : f.Named) : ∀ a ∈ f.arguments, a.name.IsString :=
  fun a ha => (h.arguments a ha).isString

namespace TypeRef

/-- The type expression with the same wrappers and the same leaf. -/
def expr : TypeRef → TypeExpr
  | named n _ => .named n.plain
  | list t => .list t.expr
  | nonNull t => .nonNull t.expr

/-- Somewhere inside, one mark of what is not null stands directly around another. -/
inductive Doubled : TypeRef → Prop
  | here (t : TypeRef) : Doubled (.nonNull (.nonNull t))
  | list {t : TypeRef} (h : Doubled t) : Doubled (.list t)
  | nonNull {t : TypeRef} (h : Doubled t) : Doubled (.nonNull t)

instance decidableDoubled : (t : TypeRef) → Decidable t.Doubled
  | named _ _ => isFalse fun h => nomatch h
  | list t =>
    have := decidableDoubled t
    decidable_of_iff t.Doubled ⟨.list, fun | .list h => h⟩
  | nonNull (nonNull t) => isTrue (.here t)
  | nonNull (named _ _) => isFalse fun | .nonNull h => nomatch h
  | nonNull (list t) =>
    have := decidableDoubled t
    decidable_of_iff t.Doubled ⟨fun h => .nonNull (.list h), fun | .nonNull (.list h) => h⟩

theorem leaf_expr (t : TypeRef) : t.expr.leaf = t.leafName.plain := by
  induction t with
  | named n k => rfl
  | list t ih => exact ih
  | nonNull t ih => exact ih

theorem print_expr (t : TypeRef) : t.expr.print = t.signature := by
  induction t with
  | named n k => rfl
  | list t ih => rw [expr, TypeExpr.print, ih, signature]
  | nonNull t ih => rw [expr, TypeExpr.print, ih, signature]

theorem plain_signatureValue (t : TypeRef) : t.signatureValue.plain = t.signature := by
  cases t <;> rfl

theorem doubled_expr (t : TypeRef) : t.expr.Doubled ↔ t.Doubled := by
  constructor
  · intro h
    induction t with
    | named n k => cases h
    | list t ih =>
      cases h with
      | list h => exact .list (ih h)
    | nonNull t ih =>
      cases t with
      | nonNull u => exact .here u
      | named n k => cases h with | nonNull h => exact .nonNull (ih h)
      | list u => cases h with | nonNull h => exact .nonNull (ih h)
  · intro h
    induction h with
    | here t => exact .here t.expr
    | list _ ih => exact .list ih
    | nonNull _ ih => exact .nonNull ih

end TypeRef

/-! ## The call -/

/-- The kinds whose fields have nothing further to select. -/
def Kind.isLeaf : Kind → Bool
  | .scalar | .enum => true
  | _ => false

/-- The names of the fields that are leaves. -/
def SchemaType.leaves (t : SchemaType) : List String :=
  (t.fields.filter (·.type.leafKind.isLeaf)).map (·.name.plain)

/-- What is selected of a returned type: its leaves, or the name of the type if it has fields but
no leaves. A type that is no object is a leaf itself. -/
def SchemaType.selected (t : SchemaType) : List String :=
  if t.kind = .object ∧ !t.fields.isEmpty then
    if t.leaves = [] then ["__typename"] else t.leaves
  else []

def Argument.parameter (a : Argument) : String × TypeExpr := (a.name.plain, a.type.expr)

/-- The call of a field that returns `t`. -/
def Field.call (kind : OperationKind) (f : Field) (t : SchemaType) : RootCall :=
  ⟨kind, f.name.plain, f.arguments.map Argument.parameter, t.selected⟩

theorem SchemaType.Named.isName_of_mem_leaves {t : SchemaType} (h : t.Named) {s : String}
    (hs : s ∈ t.leaves) : isName s.toList = true := by
  obtain ⟨g, hg, rfl⟩ := List.mem_map.mp hs
  exact (h.names g (List.mem_filter.mp hg).1).plain

theorem SchemaType.Named.isName_of_mem_selected {t : SchemaType} (h : t.Named) {s : String}
    (hs : s ∈ t.selected) : isName s.toList = true := by
  unfold SchemaType.selected at hs
  split at hs
  · split at hs
    · obtain rfl := List.mem_singleton.mp hs
      decide
    · exact h.isName_of_mem_leaves hs
  · cases hs

/-- The call of a field with names throughout has names throughout. -/
theorem Field.Named.call {f : Field} {t : SchemaType} (hf : f.Named) (ht : t.Named)
    (kind : OperationKind) : (f.call kind t).Named where
  name := hf.name.plain
  parameters p hp := by
    obtain ⟨a, ha, rfl⟩ := List.mem_map.mp hp
    exact (hf.arguments a ha).plain
  types p hp := by
    obtain ⟨a, ha, rfl⟩ := List.mem_map.mp hp
    exact (congrArg (isName ·.toList) a.type.leaf_expr).trans (hf.types a ha).plain
  selected _ hs := ht.isName_of_mem_selected hs

/-- An argument has a type with doubled marks. -/
def Field.Doubled (f : Field) : Prop := ∃ a ∈ f.arguments, a.type.Doubled

instance (f : Field) : Decidable f.Doubled :=
  inferInstanceAs (Decidable (∃ a ∈ f.arguments, a.type.Doubled))

theorem Field.exists_doubled_parameter (kind : OperationKind) (f : Field) (t : SchemaType) :
    (∃ p ∈ (f.call kind t).parameters, p.2.Doubled) ↔ f.Doubled := by
  constructor
  · rintro ⟨p, hp, hd⟩
    obtain ⟨a, ha, rfl⟩ := List.mem_map.mp hp
    exact ⟨a, ha, a.type.doubled_expr.mp hd⟩
  · rintro ⟨a, ha, hd⟩
    exact ⟨a.parameter, List.mem_map_of_mem ha, a.type.doubled_expr.mpr hd⟩

theorem Field.not_doubled_parameter {f : Field} (h : ¬ f.Doubled) (kind : OperationKind)
    (t : SchemaType) : ∀ p ∈ (f.call kind t).parameters, ¬ p.2.Doubled :=
  fun p hp hd => h ((f.exists_doubled_parameter kind t).mp ⟨p, hp, hd⟩)

end RequestBook
