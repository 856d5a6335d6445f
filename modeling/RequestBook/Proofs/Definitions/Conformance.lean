import RequestBook.Definitions.Describing
import RequestBook.Proofs.Definitions.Building
import RequestBook.Proofs.Definitions.Reading

/-!
# The schema of an echo

The definition of an echo of a built-in scalar keeps all rules and makes a schema without
violations, whatever wrappers the type of the echo has. Besides the root type, the schema has
built-in types only.
-/

namespace RequestBook

/-! ## The types in scope -/

def echoScope (e : TypeExpr) : Scope := ⟨echoType e :: Builtin.types⟩

set_option maxRecDepth 20000 in
theorem types_echoDocument (e : TypeExpr) : (echoDocument e).types = [echoType e] := by
  with_unfolding_all rfl

set_option maxRecDepth 20000 in
theorem scope_echoDocument (e : TypeExpr) : (echoDocument e).scope = echoScope e := by
  with_unfolding_all rfl

variable {e : TypeExpr} {b : TypeDefinition}

theorem scalar_names (hb : b ∈ Builtin.scalars) :
    (echoScope e).names TypeBody.isScalar b.name = true := by
  have hall : (Builtin.scalars.all fun b =>
      (echoScope e).names TypeBody.isScalar b.name) = true := by with_unfolding_all rfl
  exact List.all_eq_true.mp hall b hb

theorem Scope.names_mono {scope : Scope} {p q : TypeBody → Bool} {name : String}
    (hpq : ∀ body, p body = true → q body = true) (h : scope.names p name = true) :
    scope.names q name = true := by
  obtain ⟨t, hfind, hbody⟩ := Scope.exists_of_names h
  rw [Scope.names, hfind]
  exact hpq t.body hbody

/-! ## No breaches -/

/-- Rules are about the leaf of a type. -/
theorem breaches_leaf (e : TypeExpr) :
    (echoDocument e).breaches = (echoDocument (.named e.leaf)).breaches := rfl

theorem breaches_echoDocument (hb : b ∈ Builtin.scalars) (he : e.leaf = b.name) :
    (echoDocument e).breaches = [] := by
  -- a closed check for each of the five names, as wrappers do not count
  have hall : (Builtin.scalars.all fun b =>
      (echoDocument (.named b.name)).breaches.isEmpty) = true := by decide +kernel
  rw [breaches_leaf, he]
  exact List.isEmpty_iff.mp (List.all_eq_true.mp hall b hb)

/-! ## The schema -/

theorem isPlain_echoType (hb : b ∈ Builtin.scalars) (he : e.leaf = b.name) :
    (echoType e).isPlain (echoScope e) = true := by
  have hscalar : (echoScope e).names TypeBody.isScalar e.leaf = true := he ▸ scalar_names hb
  have hinput : (echoScope e).names TypeBody.isInput e.leaf = true :=
    Scope.names_mono (fun body hbody => by rw [TypeBody.eq_scalar hbody]; rfl) hscalar
  have houtput : (echoScope e).names TypeBody.isOutput e.leaf = true :=
    Scope.names_mono (fun body hbody => by rw [TypeBody.eq_scalar hbody]; rfl) hscalar
  have hargument : InputDefinition.isPlain (echoScope e) ⟨none, "a", e, none, []⟩ = true := by
    rw [InputDefinition.isPlain, hinput]
    rfl
  have hfield : (echoField e).isPlain (echoScope e) = true := by
    rw [FieldDefinition.isPlain, echoField, houtput, List.all_cons, hargument]
    rfl
  rw [TypeDefinition.isPlain, echoType]
  simp only [List.all_cons, hfield]
  rfl

set_option maxRecDepth 20000 in
theorem isPlain_echoScope (hb : b ∈ Builtin.scalars) (he : e.leaf = b.name) :
    ∀ t ∈ (echoScope e).types, t.isPlain (echoScope e) = true := by
  have hall : (Builtin.types.all (·.isPlain (echoScope e))) = true := by with_unfolding_all rfl
  exact List.forall_mem_cons.mpr ⟨isPlain_echoType hb he, List.all_eq_true.mp hall⟩

/-- A schema with an echo in front of other types. -/
def echoSchema (e : TypeExpr) (others : List DefinedType) : DefinedSchema :=
  ⟨(echoType e).type :: others, Builtin.directives.map DirectiveDefinition.directive, some "Query",
    none, none⟩

theorem plainSchema_echoDocument (e : TypeExpr) :
    ∃ others, (echoDocument e).plainSchema = echoSchema e others ∧
      ∀ t ∈ others, t ∈ (echoScope e).types.map TypeDefinition.type := by
  obtain ⟨names, hnames⟩ := Document.isPrefix_order (types_echoDocument e)
    ((echoScope e).types.map TypeDefinition.type)
    (Builtin.directives.map DirectiveDefinition.directive)
  refine ⟨names.filterMap fun name => ((echoScope e).types.map TypeDefinition.type).find?
    (·.name = name), ?_, fun t ht => ?_⟩
  · rw [Document.plainSchema, scope_echoDocument, ← hnames]
    rfl
  · obtain ⟨name, -, hfind⟩ := List.mem_filterMap.mp ht
    exact List.mem_of_find?_eq_some hfind

set_option maxRecDepth 20000 in
theorem build_echoDocument (hb : b ∈ Builtin.scalars) (he : e.leaf = b.name) :
    (echoDocument e).build = .ok (echoDocument e).plainSchema := by
  have hdirectives : (Builtin.directives.all (·.arguments.all (·.isPlain (echoScope e)))) = true :=
    by with_unfolding_all rfl
  refine Document.build_of_isPlain ?_ rfl ?_ ?_
  · rw [types_echoDocument]
    rfl
  · rw [scope_echoDocument]
    exact List.all_eq_true.mp hdirectives
  · rw [scope_echoDocument]
    exact isPlain_echoScope hb he

/-! ## No violations -/

/-- The input can be written down with its default value. -/
def InputValue.isWritable (v : InputValue) : Bool := v.defaultValue.all (·.write.isOk)

namespace DefinedSchema

variable {s : DefinedSchema}

/-- A type in which nothing is wrong by itself. -/
structure Accepts (s : DefinedSchema) (t : DefinedType) : Prop where
  valid : s.typeViolations t = []
  /-- No input type is there that could contain itself. -/
  output : t.body.inputFields = []
  writable : (t.body.outputFields.flatMap (·.arguments)).all InputValue.isWritable = true

theorem needs_eq_nil (h : ∀ t ∈ s.types, t.body.inputFields = []) (name : String) :
    s.needs name = [] := by
  rw [needs]
  cases hfind : s.find? name with
  | none => rfl
  | some t =>
    have hinputs := h t (List.mem_of_find?_eq_some hfind)
    rw [Option.map_some, hinputs]
    rfl

theorem inputCycles_eq_nil (h : ∀ name, s.needs name = []) (levels : Nat)
    (path : List (String × String)) (visited : List String) (name : String) :
    (s.inputCycles levels path visited name).2 = [] := by
  cases levels with
  | zero => rfl
  | succ levels =>
    rw [inputCycles, h name]
    split <;> rfl

theorem typesViolations_eq_nil (hneeds : ∀ name, s.needs name = []) {ts : List DefinedType}
    (h : ∀ t ∈ ts, s.typeViolations t = []) (visited : List String) :
    s.typesViolations visited ts = [] := by
  induction ts generalizing visited with
  | nil => rfl
  | cons t ts ih =>
    rw [typesViolations]
    simp only [h t List.mem_cons_self, inputCycles_eq_nil hneeds, List.nil_append]
    exact ih (fun u hu => h u (List.mem_cons_of_mem t hu)) _

theorem violations_eq_nil (hroots : s.rootViolations = [])
    (hdirectives : s.directiveViolations = []) (h : ∀ t ∈ s.types, s.Accepts t) :
    s.violations = [] := by
  rw [violations, hroots, hdirectives,
    typesViolations_eq_nil (needs_eq_nil fun t ht => (h t ht).output) fun t ht => (h t ht).valid]
  rfl

set_option maxRecDepth 20000 in
theorem accepts_builtin (s : DefinedSchema) (hb : b ∈ Builtin.types) : s.Accepts b.type := by
  have hvalid : (Builtin.types.all fun b => (s.typeViolations b.type).isEmpty) = true := by
    with_unfolding_all rfl
  have houtput : (Builtin.types.all fun b => b.type.body.inputFields.isEmpty) = true := rfl
  have hwritable : (Builtin.types.all fun b =>
      (b.type.body.outputFields.flatMap (·.arguments)).all InputValue.isWritable) = true := rfl
  exact ⟨List.isEmpty_iff.mp (List.all_eq_true.mp hvalid b hb),
    List.isEmpty_iff.mp (List.all_eq_true.mp houtput b hb), List.all_eq_true.mp hwritable b hb⟩

set_option maxRecDepth 20000 in
theorem accepts_echoType (s : DefinedSchema) (e : TypeExpr) : s.Accepts (echoType e).type := by
  refine ⟨?_, rfl, rfl⟩
  cases e <;> with_unfolding_all rfl

theorem write_of_mem_defaultValues (h : ∀ t ∈ s.types, s.Accepts t)
    (hdirectives : (s.directives.flatMap (·.arguments)).all InputValue.isWritable = true)
    {c : Constant} (hc : c ∈ s.defaultValues) : c.write.isOk = true := by
  obtain ⟨v, hv, hc⟩ := List.mem_filterMap.mp hc
  have hwritable : v.isWritable = true := by
    rcases List.mem_append.mp hv with hv | hv
    · obtain ⟨t, ht, hv⟩ := List.mem_flatMap.mp hv
      rw [(h t ht).output, List.append_nil] at hv
      exact List.all_eq_true.mp (h t ht).writable v hv
    · exact List.all_eq_true.mp hdirectives v hv
  rwa [InputValue.isWritable, hc, Option.all_some] at hwritable

end DefinedSchema

/-! ## The schema is found -/

section Others

variable {others : List DefinedType}
  (hothers : ∀ t ∈ others, t ∈ (echoScope e).types.map TypeDefinition.type)

include hothers

theorem accepts_echoSchema (s : DefinedSchema) :
    ∀ t ∈ (echoSchema e others).types, s.Accepts t := by
  refine List.forall_mem_cons.mpr ⟨s.accepts_echoType e, fun t ht => ?_⟩
  obtain ⟨d, hd, rfl⟩ := List.mem_map.mp (hothers t ht)
  rcases List.mem_cons.mp hd with rfl | hd
  · exact s.accepts_echoType e
  · exact s.accepts_builtin hd

theorem violations_echoSchema : (echoSchema e others).violations = [] := by
  have hdirectives : (echoSchema e others).directiveViolations = [] := by with_unfolding_all rfl
  exact DefinedSchema.violations_eq_nil rfl hdirectives (accepts_echoSchema hothers _)

end Others

theorem Document.definedSchema_eq_ok {doc : Document} {s : DefinedSchema}
    (hbreaches : doc.breaches = []) (hbuild : doc.build = .ok s) (hviolations : s.violations = [])
    (hwrite : ∀ c ∈ s.defaultValues, c.write.isOk = true) : doc.definedSchema = .ok s := by
  have hdefaults : s.defaultValues.forM (fun c => do
      let _ ← c.write.mapError DefinitionFault.unwritable) = .ok () := by
    refine forM_ok fun c hc => ?_
    have hok := hwrite c hc
    cases hliteral : c.write with
    | ok literal => rfl
    | error e => rw [hliteral] at hok; cases hok
  rw [definedSchema, hbreaches, hbuild]
  refine bind_eq_ok.mpr ⟨s, rfl, ?_⟩
  rw [hviolations]
  exact bind_eq_ok.mpr ⟨(), hdefaults, rfl⟩

/-- An echo of a built-in scalar makes a schema of its root type and built-in types. -/
theorem definedSchema_echoDocument (hb : b ∈ Builtin.scalars) (he : e.leaf = b.name) :
    ∃ others, (echoDocument e).definedSchema = .ok (echoSchema e others) ∧
      ∀ t ∈ others, t ∈ (echoScope e).types.map TypeDefinition.type := by
  obtain ⟨others, hplain, hothers⟩ := plainSchema_echoDocument e
  have hbuild := (build_echoDocument hb he).trans (congrArg Except.ok hplain)
  have haccepts := accepts_echoSchema hothers (echoSchema e others)
  exact ⟨others, Document.definedSchema_eq_ok (breaches_echoDocument hb he) hbuild
    (violations_echoSchema hothers)
    fun c hc => DefinedSchema.write_of_mem_defaultValues haccepts rfl hc, hothers⟩

end RequestBook
