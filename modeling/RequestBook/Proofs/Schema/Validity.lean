import Mathlib.Data.List.Nodup
import RequestBook.Proofs.Request.Call

/-!
# Valid schemas

What a schema has to keep to, of the rules that the request language sets for schemas: names are
names and are given once, a reference leads to a type of its kind that may stand there, and objects,
interfaces and input objects are the types that have fields.
-/

namespace RequestBook

namespace Kind

/-- The kinds of what a field can return. -/
def isOutput : Kind → Bool
  | scalar | object | interface | union | enum => true
  | _ => false

/-- The kinds of what an argument can be given. -/
def isInput : Kind → Bool
  | scalar | enum | inputObject => true
  | _ => false

/-- The kinds of types that have fields of their own, to return or to be given. -/
def hasFields : Kind → Bool
  | object | interface | inputObject => true
  | _ => false

/-- Input objects are made of what can be given, the other types of what can be returned. -/
def holds : Kind → Kind → Bool
  | inputObject => isInput
  | _ => isOutput

end Kind

variable {s : Schema} {parent : Kind}

/-- A reference to a type of the schema, and of what kind it is. -/
structure TypeRef.ValidIn (s : Schema) (t : TypeRef) : Prop where
  known : ∃ u ∈ s.types, u.name = t.leafName ∧ u.kind = t.leafKind
  marks : ¬ t.Doubled

structure Argument.ValidIn (s : Schema) (a : Argument) : Prop where
  name : a.name.IsName
  type : a.type.ValidIn s
  kind : a.type.leafKind.isInput = true

/-- A field that a type of kind `parent` may have. -/
structure Field.ValidIn (s : Schema) (parent : Kind) (f : Field) : Prop where
  name : f.name.IsName
  /-- Names with two underscores in front are kept for the language itself. -/
  unreserved : f.name.plain.startsWith "__" = false
  description : f.description.IsText
  type : f.type.ValidIn s
  kind : parent.holds f.type.leafKind = true
  /-- What is given takes no arguments. -/
  bare : parent = .inputObject → f.arguments = []
  arguments : ∀ a ∈ f.arguments, a.ValidIn s
  distinct : (f.arguments.map Argument.name).Nodup

structure SchemaType.ValidIn (s : Schema) (t : SchemaType) : Prop where
  name : t.name.IsName
  fields : ∀ f ∈ t.fields, f.ValidIn s t.kind
  distinct : (t.fields.map Field.name).Nodup
  shape : t.fields ≠ [] ↔ t.kind.hasFields = true

structure Schema.Valid (s : Schema) : Prop where
  types : ∀ t ∈ s.types, t.ValidIn s
  distinct : (s.types.map SchemaType.name).Nodup

/-! ## What becomes of names -/

theorem Kind.isLine_of_isOutput {k : Kind} (h : k.isOutput = true) : k.IsLine := by
  cases k with
  | scalar | object | interface | union | enum => decide
  | _ => cases h

theorem Kind.isLine_of_isInput {k : Kind} (h : k.isInput = true) : k.IsLine := by
  cases k with
  | scalar | enum | inputObject => decide
  | _ => cases h

theorem Kind.isLine_of_holds {parent k : Kind} (h : parent.holds k = true) : k.IsLine := by
  cases parent with
  | inputObject => exact isLine_of_isInput h
  | _ => exact isLine_of_isOutput h

theorem Kind.hasFields_of_isLeaf {k : Kind} (h : k.isLeaf = true) : k.hasFields = false := by
  cases k with
  | scalar | enum => rfl
  | _ => cases h

theorem Field.ValidIn.named {f : Field} (h : f.ValidIn s parent) (hs : s.Valid) : f.Named where
  name := h.name
  arguments a ha := (h.arguments a ha).name
  types a ha := by
    obtain ⟨u, hu, hname, -⟩ := (h.arguments a ha).type.known
    rw [← hname]
    exact (hs.types u hu).name

theorem Field.ValidIn.not_doubled {f : Field} (h : f.ValidIn s parent) : ¬ f.Doubled :=
  fun ⟨a, ha, hdoubled⟩ => (h.arguments a ha).type.marks hdoubled

theorem SchemaType.ValidIn.named {t : SchemaType} (h : t.ValidIn s) : t.Named where
  names g hg := (h.fields g hg).name
  descriptions g hg := (h.fields g hg).description
  kinds g hg := Kind.isLine_of_holds (h.fields g hg).kind

/-- Where names are given once, a name leads to the type that has it, wherever that stands. -/
theorem Schema.find?_eq_some_iff (hstrings : ∀ t ∈ s.types, t.name.IsString)
    (hdistinct : (s.types.map SchemaType.name).Nodup) {name : Json} {t : SchemaType} :
    s.find? name = some t ↔ t ∈ s.types ∧ t.name = name := by
  constructor
  · intro h
    have ht : t ∈ s.types := List.mem_of_find?_eq_some h
    have hsame := List.find?_some h
    exact ⟨ht, (hstrings t ht).same.mp hsame⟩
  · rintro ⟨ht, rfl⟩
    cases h : s.find? t.name with
    | none =>
      have hnone := List.find?_eq_none.mp h t ht
      exact absurd ((hstrings t ht).same.mpr rfl) hnone
    | some u =>
      have hu : u ∈ s.types := List.mem_of_find?_eq_some h
      have hsame := List.find?_some h
      rw [List.inj_on_of_nodup_map hdistinct hu ht ((hstrings u hu).same.mp hsame)]

namespace Schema.Valid

theorem eq_of_name (hs : s.Valid) {t u : SchemaType} (ht : t ∈ s.types) (hu : u ∈ s.types)
    (h : t.name = u.name) : t = u :=
  List.inj_on_of_nodup_map hs.distinct ht hu h

theorem find? (hs : s.Valid) {t : SchemaType} (ht : t ∈ s.types) : s.find? t.name = some t :=
  (find?_eq_some_iff (fun u hu => (hs.types u hu).name.isString) hs.distinct).mpr ⟨ht, rfl⟩

theorem mem_of_find? {name : Json} {t : SchemaType} (h : s.find? name = some t) : t ∈ s.types :=
  List.mem_of_find?_eq_some h

/-- Every reference leads to one type, of the kind that it says. -/
theorem exists_returned (hs : s.Valid) {r : TypeRef} (h : r.ValidIn s) :
    ∃ t ∈ s.types, t.name = r.leafName ∧ t.kind = r.leafKind ∧ s.find? r.leafName = some t := by
  obtain ⟨t, ht, hname, hkind⟩ := h.known
  exact ⟨t, ht, hname, hkind, hname ▸ hs.find? ht⟩

end Schema.Valid

end RequestBook
