import RequestBook.Definitions.Building
import RequestBook.Proofs.Outcomes

/-!
# Plain definitions

A definition is plain if it refers to known types only, has no directives and gives its inputs no
defaults but literals of scalar types. A plain definition makes what it says, in every schema that
has the types it refers to. The built-in types are plain.
-/

namespace RequestBook

/-! ## What definitions stand for -/

/-- The input that a definition stands for if nothing deprecates it. -/
def InputDefinition.value (d : InputDefinition) : InputValue :=
  ⟨d.name, d.type, d.defaultValue.bind (·.scalar? d.type.leaf), false, textOf d.description⟩

def FieldDefinition.field (d : FieldDefinition) : DefinedField :=
  ⟨d.name, d.type, d.arguments.map InputDefinition.value, textOf d.description⟩

def DirectiveDefinition.directive (d : DirectiveDefinition) : DefinedDirective :=
  ⟨d.name, d.arguments.map InputDefinition.value⟩

def TypeBody.defined : TypeBody → DefinedBody
  | .scalar => .scalar
  | .object interfaces fields => .object interfaces (fields.map FieldDefinition.field)
  | .interface interfaces fields => .interface interfaces (fields.map FieldDefinition.field)
  | .union members => .union members
  | .enum values => .enum (values.map (·.name))
  | .input fields => .input (fields.map InputDefinition.value)

def TypeDefinition.type (t : TypeDefinition) : DefinedType :=
  ⟨t.name, textOf t.description, t.body.defined⟩

/-! ## Plain definitions -/

def TypeBody.isScalar : TypeBody → Bool
  | .scalar => true
  | _ => false

/-- A literal of a type that is read without a look at other types. -/
def Value.isPlain (scope : Scope) (v : Value) (type : TypeExpr) : Bool :=
  match v, type with
  | .boolean _, .named name | .string _, .named name => scope.names TypeBody.isScalar name
  | _, _ => false

def InputDefinition.isPlain (scope : Scope) (d : InputDefinition) : Bool :=
  scope.names TypeBody.isInput d.type.leaf && d.directives.isEmpty &&
    d.defaultValue.all (·.isPlain scope d.type)

def FieldDefinition.isPlain (scope : Scope) (d : FieldDefinition) : Bool :=
  scope.names TypeBody.isOutput d.type.leaf && d.directives.isEmpty &&
    d.arguments.all (·.isPlain scope)

/-- A scalar, an enum or an object without interfaces. -/
def TypeDefinition.isPlain (scope : Scope) (t : TypeDefinition) : Bool :=
  match t.body with
  | .scalar | .enum _ => true
  | .object interfaces fields => interfaces.isEmpty && fields.all (·.isPlain scope)
  | _ => false

variable {scope : Scope} {inputs : InputTypes}

theorem TypeBody.eq_scalar {body : TypeBody} (h : body.isScalar = true) : body = .scalar := by
  cases body with
  | scalar => rfl
  | _ => cases h

theorem Scope.exists_of_names {holds : TypeBody → Bool} {name : String}
    (h : scope.names holds name = true) : ∃ t, scope.find? name = some t ∧ holds t.body = true := by
  rw [Scope.names, Option.any_eq_true] at h
  exact h

/-- A literal of a scalar type is read by its name alone. -/
theorem Value.coerce_scalar {v : Value} {name : String} (hv : v ≠ .null)
    (h : scope.names TypeBody.isScalar name = true) :
    v.coerce scope inputs (.named name) = OptionT.mk (.ok (v.scalar? name)) := by
  obtain ⟨t, hfind, hbody⟩ := Scope.exists_of_names h
  rw [Value.coerce.eq_def]
  cases v with
  | null => exact absurd rfl hv
  | _ => simp only [hfind, TypeBody.eq_scalar hbody]

theorem Value.coerce_of_isPlain {v : Value} {type : TypeExpr} (h : v.isPlain scope type = true) :
    (v.coerce scope inputs type).run = .ok (v.scalar? type.leaf) := by
  unfold Value.isPlain at h
  split at h
  · exact congrArg OptionT.run (Value.coerce_scalar (by simp) h)
  · exact congrArg OptionT.run (Value.coerce_scalar (by simp) h)
  · cases h

/-! ## Plain definitions are built -/

theorem InputDefinition.build_of_isPlain {d : InputDefinition} (unfit : Defect)
    (h : d.isPlain scope = true) : d.build scope inputs unfit = .ok d.value := by
  simp only [InputDefinition.isPlain, Bool.and_eq_true, List.isEmpty_iff] at h
  obtain ⟨⟨hinput, hdirectives⟩, hdefault⟩ := h
  rw [InputDefinition.build, InputDefinition.value, hinput, hdirectives]
  cases hvalue : d.defaultValue with
  | none => rfl
  | some v =>
    rw [hvalue, Option.all_some] at hdefault
    simp only [Value.coerce_of_isPlain hdefault]
    rfl

theorem mapM_build_of_isPlain {ds : List InputDefinition} (unfit : Defect)
    (h : ds.all (·.isPlain scope) = true) :
    ds.mapM (·.build scope inputs unfit) = .ok (ds.map InputDefinition.value) :=
  mapM_ok_map fun d hd => d.build_of_isPlain unfit (List.all_eq_true.mp h d hd)

theorem FieldDefinition.build_of_isPlain {d : FieldDefinition} (h : d.isPlain scope = true) :
    d.build scope inputs = .ok d.field := by
  simp only [FieldDefinition.isPlain, Bool.and_eq_true, List.isEmpty_iff] at h
  obtain ⟨⟨houtput, hdirectives⟩, harguments⟩ := h
  rw [FieldDefinition.build, mapM_build_of_isPlain .notArgument harguments, houtput, hdirectives]
  rfl

theorem TypeDefinition.build_of_isPlain {t : TypeDefinition} (h : t.isPlain scope = true) :
    t.build scope inputs = .ok t.type := by
  unfold TypeDefinition.isPlain at h
  rw [TypeDefinition.build, TypeDefinition.type]
  split at h
  · next hbody => rw [hbody]; rfl
  · next hbody => rw [hbody]; rfl
  · next interfaces fields hbody =>
    simp only [Bool.and_eq_true, List.isEmpty_iff] at h
    obtain ⟨rfl, hfields⟩ := h
    have hbuilt : fields.mapM (FieldDefinition.build scope inputs) =
        .ok (fields.map FieldDefinition.field) :=
      mapM_ok_map fun f hf => f.build_of_isPlain (List.all_eq_true.mp hfields f hf)
    rw [hbody]
    simp only [hbuilt]
    rfl
  · cases h

theorem DirectiveDefinition.build_of_isPlain {d : DirectiveDefinition}
    (h : d.arguments.all (·.isPlain scope) = true) :
    d.build scope inputs = .ok d.directive := by
  rw [DirectiveDefinition.build, mapM_build_of_isPlain .notArgument h]
  rfl

/-! ## The order of types -/

namespace Document

/-- The names of the types that a schema has, each one behind those that lead to it. -/
def order (doc : Document) (types : List DefinedType) (directives : List DefinedDirective) :
    List String :=
  let references := fun name => ((types.find? (·.name = name)).map (·.references)).getD []
  let levels := types.length + 1
  let roots := (doc.root .query "Query").toList ++ (doc.root .mutation "Mutation").toList ++
    (doc.root .subscription "Subscription").toList
  let referred := roots ++ directives.flatMap (fun d => d.arguments.map (·.type.leaf)) ++
    [Builtin.schemaType.name]
  referred.foldl (collect references [] levels)
    (collectAll references levels [] (doc.types.map (·.name)))

/-- The schema that a document stands for if it defines no directives. -/
def plainSchema (doc : Document) : DefinedSchema :=
  let types := doc.scope.types.map TypeDefinition.type
  let directives := Builtin.directives.map DirectiveDefinition.directive
  ⟨(doc.order types directives).filterMap fun name => types.find? (·.name = name), directives,
    doc.root .query "Query", doc.root .mutation "Mutation", doc.root .subscription "Subscription"⟩

/-- Plain definitions make the schema that they stand for. -/
theorem build_of_isPlain {doc : Document}
    (hearly : doc.types.forM TypeDefinition.checkEarly = .ok ())
    (hown : doc.directiveDefinitions = [])
    (hdirectives : ∀ d ∈ Builtin.directives, d.arguments.all (·.isPlain doc.scope) = true)
    (htypes : ∀ t ∈ doc.scope.types, t.isPlain doc.scope = true) :
    doc.build = .ok doc.plainSchema := by
  have hnone : doc.directiveDefinitions.mapM (·.build doc.scope doc.scope.inputTypes) = .ok [] := by
    rw [hown]
    rfl
  have hbuiltin : Builtin.directives.mapM (·.build doc.scope doc.scope.inputTypes) =
      .ok (Builtin.directives.map DirectiveDefinition.directive) :=
    mapM_ok_map fun d hd => d.build_of_isPlain (hdirectives d hd)
  have hbuilt : doc.scope.types.mapM (·.build doc.scope doc.scope.inputTypes) =
      .ok (doc.scope.types.map TypeDefinition.type) :=
    mapM_ok_map fun t ht => t.build_of_isPlain (htypes t ht)
  exact bind_eq_ok.mpr ⟨(), hearly, bind_eq_ok.mpr ⟨[], hnone, bind_eq_ok.mpr ⟨_, hbuiltin,
    bind_eq_ok.mpr ⟨_, hbuilt, rfl⟩⟩⟩⟩

end Document

theorem isPrefix_foldl {α β : Type} {f : List α → β → List α} (hf : ∀ seen x, seen <+: f seen x)
    (xs : List β) (seen : List α) : seen <+: xs.foldl f seen := by
  induction xs generalizing seen with
  | nil => exact List.prefix_rfl
  | cons x xs ih => exact (hf seen x).trans (ih (f seen x))

/-- What has been seen stays in its place. -/
theorem isPrefix_collect (references : String → List String) (pending : List String) (levels : Nat)
    (seen : List String) (name : String) :
    seen <+: collect references pending levels seen name := by
  induction levels generalizing seen name with
  | zero => exact List.prefix_rfl
  | succ levels ih =>
    rw [collect]
    split
    · exact List.prefix_rfl
    · exact (List.prefix_append seen [name]).trans (isPrefix_foldl ih _ _)

theorem isPrefix_collectAll (references : String → List String) (levels : Nat) (name : String) :
    [name] <+: collectAll references (levels + 1) [] [name] := by
  rw [collectAll, collectAll, collect, if_neg (by simp)]
  exact isPrefix_foldl (isPrefix_collect references [] levels) _ _

/-- The only type that a document defines is the first one of its schema. -/
theorem Document.isPrefix_order {doc : Document} {t : TypeDefinition} (h : doc.types = [t])
    (types : List DefinedType) (directives : List DefinedDirective) :
    [t.name] <+: doc.order types directives := by
  rw [order, h]
  exact (isPrefix_collectAll _ types.length t.name).trans
    (isPrefix_foldl (isPrefix_collect _ [] _) _ _)

end RequestBook
