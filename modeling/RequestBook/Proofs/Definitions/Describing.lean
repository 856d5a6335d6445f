import RequestBook.Definitions.Describing
import RequestBook.Proofs.Schema.Reference

/-!
# Reading the description of a defined schema

What a server says of its definitions is read as the schema that they make, with every type, field
and argument at its place and every reference with all of its wrappers. Only a reference with more
wrappers than the query asks for is in the way. It is refused, so nothing is read in its stead.
-/

namespace RequestBook

/-! ## Kinds -/

theorem Kind.describable_of_isKnown {k : Kind} (h : k.isKnown = true) : k.Describable := by
  cases k with
  | other spelling => cases h
  | _ => exact ⟨by decide, rfl⟩

theorem DefinedBody.isKnown_kind (b : DefinedBody) : b.kind.isKnown = true := by
  cases b <;> rfl

theorem DefinedBody.isWrapper_kind (b : DefinedBody) : b.kind.isWrapper = false := by
  cases b <;> rfl

/-! ## References -/

namespace TypeExpr

/-- The kinds of the wrappers, the outermost one first. -/
def wrappers : TypeExpr → List Kind
  | named _ => []
  | list item => .list :: item.wrappers
  | nonNull item => .nonNull :: item.wrappers

end TypeExpr

namespace DefinedSchema

variable {s : DefinedSchema} {e : TypeExpr} {k n : Nat}

/-- The reference to a type, with the kind that its leaf has in the schema. -/
def typeRef (s : DefinedSchema) : TypeExpr → TypeRef
  | .named name => .named (.str name) (s.kindOf (.named name))
  | .list item => .list (s.typeRef item)
  | .nonNull item => .nonNull (s.typeRef item)

theorem wrappers_typeRef (s : DefinedSchema) (e : TypeExpr) :
    (s.typeRef e).wrappers = e.wrappers := by
  induction e with
  | named name => rfl
  | list item ih => exact congrArg (Kind.list :: ·) ih
  | nonNull item ih => exact congrArg (Kind.nonNull :: ·) ih

theorem leafName_typeRef (s : DefinedSchema) (e : TypeExpr) :
    (s.typeRef e).leafName = .str e.leaf := by
  induction e with
  | named name => rfl
  | list item ih => exact ih
  | nonNull item ih => exact ih

theorem leafKind_typeRef (s : DefinedSchema) (e : TypeExpr) :
    (s.typeRef e).leafKind = s.kindOf (.named e.leaf) := by
  induction e with
  | named name => rfl
  | list item ih => exact ih
  | nonNull item ih => exact ih

/-- A name has a kind that is known and that is no wrapper. -/
theorem kindOf_named (s : DefinedSchema) (name : String) :
    (s.kindOf (.named name)).isKnown = true ∧ (s.kindOf (.named name)).isWrapper = false := by
  rw [kindOf]
  cases s.find? name with
  | none => exact ⟨rfl, rfl⟩
  | some t => exact ⟨t.body.isKnown_kind, t.body.isWrapper_kind⟩

theorem describable_typeRef (he : e.leaf ≠ "") : (s.typeRef e).Describable := by
  obtain ⟨hknown, hleaf⟩ := s.kindOf_named e.leaf
  rw [← leafKind_typeRef] at hknown hleaf
  refine ⟨Kind.describable_of_isKnown hknown, hleaf, ?_⟩
  rw [leafName_typeRef]
  simpa [Json.truthy] using he

theorem describedBy_reference (h : e.wrappers.length ≤ k) :
    (s.typeRef e).DescribedBy (s.reference k e) := by
  induction e generalizing k with
  | named name => cases k <;> exact ⟨rfl, rfl⟩
  | list item ih =>
    cases k with
    | zero => exact absurd h (Nat.not_succ_le_zero _)
    | succ k => exact ⟨rfl, _, rfl, ih (Nat.le_of_succ_le_succ h)⟩
  | nonNull item ih =>
    cases k with
    | zero => exact absurd h (Nat.not_succ_le_zero _)
    | succ k => exact ⟨rfl, _, rfl, ih (Nat.le_of_succ_le_succ h)⟩

/-- Asking for less than all wrappers cuts the reference below the last one that is asked for. -/
theorem cutBelow_reference (hk : k < e.wrappers.length) (hn : e.wrappers.length ≤ n) :
    (s.reference n e).CutBelow k (s.reference k e) := by
  induction e generalizing k n with
  | named name => cases hk
  | list item ih =>
    cases n with
    | zero => exact absurd hn (Nat.not_succ_le_zero _)
    | succ n =>
      cases k with
      | zero => exact .here rfl rfl
      | succ k =>
        have hbelow := ih (Nat.lt_of_succ_lt_succ hk) (Nat.le_of_succ_le_succ hn)
        exact .inside rfl rfl rfl hbelow
  | nonNull item ih =>
    cases n with
    | zero => exact absurd hn (Nat.not_succ_le_zero _)
    | succ n =>
      cases k with
      | zero => exact .here rfl rfl
      | succ k =>
        have hbelow := ih (Nat.lt_of_succ_lt_succ hk) (Nat.le_of_succ_le_succ hn)
        exact .inside rfl rfl rfl hbelow

theorem ofJson_reference (he : e.leaf ≠ "") (hk : e.wrappers.length ≤ k) :
    TypeRef.ofJson (s.reference k e) = .ok (s.typeRef e) :=
  (describedBy_reference hk).ofJson (describable_typeRef he)

theorem ofJson_reference_cut {kind : Kind} (h : e.wrappers[k]? = some kind) :
    TypeRef.ofJson (s.reference k e) = .error (.integrity (.cutWrapper kind.spelling)) := by
  have hk : k < e.wrappers.length := (List.getElem?_eq_some_iff.mp h).1
  have hwhole : (s.typeRef e).DescribedBy (s.reference e.wrappers.length e) :=
    describedBy_reference (Nat.le_refl _)
  exact hwhole.ofJson_cut (cutBelow_reference hk (Nat.le_refl _)) (by rw [wrappers_typeRef, h])

end DefinedSchema

/-! ## Reading what refers to types -/

section Reading

variable {α β γ : Type}

/-- Reading what refers to some types. If each of them has a name, and no more wrappers than the
query asks for, it gives that result. Otherwise it refuses a wrapper of one of them, which is the
last one that is asked for. -/
def ReadsUncut (es : List TypeExpr) (x : Except Failure α) (a : α) : Prop :=
  (∀ e ∈ es, e.leaf ≠ "") →
    ((∀ e ∈ es, e.wrappers.length ≤ Introspection.referenceDepth) ∧ x = .ok a) ∨
      ∃ e ∈ es, ∃ kind, e.wrappers[Introspection.referenceDepth]? = some kind ∧
        x = .error (.integrity (.cutWrapper kind.spelling))

namespace ReadsUncut

variable {es es' : List TypeExpr} {x : Except Failure α} {a : α}

theorem ok (a : α) : ReadsUncut [] (.ok a) a := fun _ => .inl ⟨by simp, rfl⟩

theorem reference (s : DefinedSchema) (e : TypeExpr) :
    ReadsUncut [e] (TypeRef.ofJson (s.reference Introspection.referenceDepth e)) (s.typeRef e) := by
  intro hnamed
  rcases Nat.lt_or_ge Introspection.referenceDepth e.wrappers.length with hdeep | hshallow
  · have hkind := List.getElem?_eq_getElem hdeep
    exact .inr ⟨e, List.mem_singleton_self e, _, hkind, DefinedSchema.ofJson_reference_cut hkind⟩
  · have hread := DefinedSchema.ofJson_reference (s := s) (hnamed e (List.mem_singleton_self e))
      hshallow
    exact .inl ⟨by simpa using hshallow, hread⟩

theorem bind {next : α → Except Failure β} {b : β} (h : ReadsUncut es x a)
    (hnext : ReadsUncut es' (next a) b) : ReadsUncut (es ++ es') (x >>= next) b := by
  intro hnamed
  rw [List.forall_mem_append] at hnamed
  rcases h hnamed.1 with ⟨hshallow, rfl⟩ | ⟨e, he, kind, hkind, rfl⟩
  · rcases hnext hnamed.2 with ⟨hshallow', hb⟩ | ⟨e, he, kind, hkind, herror⟩
    · exact .inl ⟨List.forall_mem_append.mpr ⟨hshallow, hshallow'⟩, hb⟩
    · exact .inr ⟨e, List.mem_append_right es he, kind, hkind, herror⟩
  · exact .inr ⟨e, List.mem_append_left es' he, kind, hkind, rfl⟩

theorem bind_ok {f : α → β} (h : ReadsUncut es x a) :
    ReadsUncut es (x >>= fun a => .ok (f a)) (f a) := by
  have hmap : ReadsUncut (es ++ []) (x >>= fun a => .ok (f a)) (f a) := h.bind (.ok (f a))
  rwa [List.append_nil] at hmap

theorem mapM {read : Json → Except Failure β} {describe : γ → Json} {result : γ → β}
    {references : γ → List TypeExpr} {items : List γ}
    (h : ∀ i ∈ items, ReadsUncut (references i) (read (describe i)) (result i)) :
    ReadsUncut (items.flatMap references) ((items.map describe).mapM read) (items.map result) := by
  induction items with
  | nil => exact .ok []
  | cons i items ih =>
    have hrest := ih fun j hj => h j (List.mem_cons_of_mem i hj)
    rw [List.flatMap_cons, List.map_cons, List.mapM_cons]
    exact (h i List.mem_cons_self).bind hrest.bind_ok

/-- A list of descriptions, as a member has it. -/
theorem parts {read : Json → Except Failure β} {describe : γ → Json} {result : γ → β}
    {references : γ → List TypeExpr} {items : List γ}
    (h : ∀ i ∈ items, ReadsUncut (references i) (read (describe i)) (result i)) :
    ReadsUncut (items.flatMap references)
      ((Json.arr (items.map describe)).parts >>= fun values => values.mapM read)
      (items.map result) := by
  rw [Json.parts_arr]
  exact mapM h

end ReadsUncut

end Reading

/-! ## The types that a definition refers to -/

def DefinedField.references (f : DefinedField) : List TypeExpr :=
  f.type :: f.arguments.flatMap fun v => [v.type]

def DefinedBody.references : DefinedBody → List TypeExpr
  | object _ fields | interface _ fields => fields.flatMap DefinedField.references
  | input fields => fields.flatMap fun v => [v.type]
  | _ => []

namespace DefinedSchema

def references (s : DefinedSchema) : List TypeExpr := s.types.flatMap (·.body.references)

/-! ## The schema that definitions make -/

variable (s : DefinedSchema)

def argument (v : InputValue) : Argument :=
  ⟨.str v.name, s.typeRef v.type, describedText v.description, v.defaultText⟩

def field (f : DefinedField) : Field :=
  ⟨.str f.name, s.typeRef f.type, describedText f.description, f.arguments.map s.argument⟩

/-- A field of an input type takes no arguments. -/
def inputField (v : InputValue) : Field :=
  ⟨.str v.name, s.typeRef v.type, describedText v.description, []⟩

def fields : DefinedBody → List Field
  | .object _ fields | .interface _ fields => fields.map s.field
  | .input fields => fields.map s.inputField
  | _ => []

def schemaType (t : DefinedType) : SchemaType :=
  ⟨.str t.name, t.body.kind, describedText t.description, s.fields t.body⟩

def schema : Schema := ⟨s.types.map s.schemaType⟩

/-! ## The description is read as that schema -/

theorem readsUncut_argument (v : InputValue) :
    ReadsUncut [v.type] (Argument.ofJson (s.describedInput v)) (s.argument v) :=
  (ReadsUncut.reference s v.type).bind_ok

theorem readsUncut_field (f : DefinedField) :
    ReadsUncut f.references (Field.ofJson (s.describedField f)) (s.field f) := by
  have harguments := ReadsUncut.parts fun v (_ : v ∈ f.arguments) => s.readsUncut_argument v
  refine (ReadsUncut.reference s f.type).bind ?_
  rw [← bind_assoc]
  exact harguments.bind_ok

theorem readsUncut_inputField (v : InputValue) :
    ReadsUncut [v.type] (Field.ofJson (s.describedInput v)) (s.inputField v) :=
  (ReadsUncut.reference s v.type).bind_ok

/-- The member that lists the fields of a type is the one for types of its kind. -/
theorem readsUncut_fields (t : DefinedType) :
    ReadsUncut t.body.references
      (((s.describedType t).memberOrNull t.body.kind.fieldsMember).parts >>= fun values =>
        values.mapM Field.ofJson) (s.fields t.body) := by
  obtain ⟨name, description, body⟩ := t
  cases body with
  | object interfaces fields => exact .parts fun f _ => s.readsUncut_field f
  | interface interfaces fields => exact .parts fun f _ => s.readsUncut_field f
  | input fields => exact .parts fun v _ => s.readsUncut_inputField v
  | scalar => exact .ok []
  | union members => exact .ok []
  | enum values => exact .ok []

theorem readsUncut_type (t : DefinedType) :
    ReadsUncut t.body.references (SchemaType.ofJson (s.describedType t)) (s.schemaType t) := by
  have hkind := Kind.describable_of_isKnown t.body.isKnown_kind
  change ReadsUncut _ (Kind.ofJson (.str t.body.kind.spelling) >>= fun kind => _) _
  rw [hkind.ofJson]
  change ReadsUncut _ (Json.parts _ >>= fun values => values.mapM Field.ofJson >>= _) _
  rw [← bind_assoc]
  exact (s.readsUncut_fields t).bind_ok

/-- The description of a schema is read as the schema if no type has too many wrappers. Otherwise
one of its types is refused. -/
theorem ofJson_describe : ReadsUncut s.references (Schema.ofJson s.describe) s.schema :=
  (ReadsUncut.mapM fun t _ => s.readsUncut_type t).bind_ok

end DefinedSchema

end RequestBook
