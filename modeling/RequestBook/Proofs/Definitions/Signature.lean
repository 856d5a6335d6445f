import RequestBook.Proofs.Definitions.Conformance
import RequestBook.Proofs.Definitions.Describing
import RequestBook.Proofs.Request.Call
import RequestBook.Proofs.Text.Encoding
import RequestBook.Proofs.Text.Lines
import RequestBook.Schema.File

/-!
# Types in definition files

A server describes a type down to a fixed number of wrappers. A type within that number comes back
from the file that defines an echo of it just as it was written there. A type with more wrappers is
refused, so none is ever taken for a shorter one.
-/

namespace RequestBook

/-! ## References and expressions -/

theorem TypeRef.wrappers_expr (t : TypeRef) : t.expr.wrappers = t.wrappers := by
  induction t with
  | named n kind => rfl
  | list t ih => exact congrArg (Kind.list :: ·) ih
  | nonNull t ih => exact congrArg (Kind.nonNull :: ·) ih

theorem DefinedSchema.typeRef_expr {s : DefinedSchema} {t : TypeRef} {name : String}
    (hname : t.leafName = .str name) (hkind : s.kindOf (.named name) = t.leafKind) :
    s.typeRef t.expr = t := by
  induction t with
  | named n kind =>
    obtain rfl : n = .str name := hname
    obtain rfl := hkind
    rfl
  | list t ih => exact congrArg TypeRef.list (ih hname hkind)
  | nonNull t ih => exact congrArg TypeRef.nonNull (ih hname hkind)

/-! ## The description of an echo -/

/-- The root type with an echo of that type, as it is read. -/
def echoDescription (t : TypeRef) : SchemaType :=
  ⟨.str "Query", .object, .null, [⟨.str "f", t, .null, [⟨.str "a", t, .null, .null⟩]⟩]⟩

variable {b : TypeDefinition} {others : List DefinedType} {t : TypeRef}

theorem query?_echoDescription (t : TypeRef) (rest : List SchemaType) :
    (Schema.mk (echoDescription t :: rest)).query? = some (echoDescription t) := by
  simp [Schema.query?, Schema.find?, echoDescription, Json.same]

set_option maxRecDepth 20000 in
/-- No built-in type refers to a type that has no name or too many wrappers. -/
theorem references_builtin (hb : b ∈ Builtin.types) : ∀ e ∈ b.type.body.references,
    e.leaf ≠ "" ∧ e.wrappers.length ≤ Introspection.referenceDepth := by
  have hall : (Builtin.types.all fun b => b.type.body.references.all fun e =>
      decide (e.leaf ≠ "" ∧ e.wrappers.length ≤ Introspection.referenceDepth)) = true := by
    with_unfolding_all rfl
  intro e he
  exact of_decide_eq_true (List.all_eq_true.mp (List.all_eq_true.mp hall b hb) e he)

section Others

variable {e : TypeExpr}
  (hothers : ∀ d ∈ others, d ∈ (echoScope e).types.map TypeDefinition.type)

include hothers

set_option maxRecDepth 20000 in
/-- A built-in name is never that of another kind of type. -/
theorem kind_echoSchema (hb : b ∈ Builtin.scalars) :
    (echoSchema e others).kindOf (.named b.name) = .scalar := by
  have hall : (Builtin.scalars.all fun b => (echoScope e).types.all fun d =>
      decide (d.name = b.name → d.type.body.kind = .scalar)) = true := by with_unfolding_all rfl
  rw [DefinedSchema.kindOf, DefinedSchema.find?]
  cases hfind : (echoSchema e others).types.find? (·.name = b.name) with
  | none => rfl
  | some found =>
    have hmem : found ∈ (echoScope e).types.map TypeDefinition.type := by
      rcases List.mem_cons.mp (List.mem_of_find?_eq_some hfind) with rfl | hmem
      · exact List.mem_map_of_mem List.mem_cons_self
      · exact hothers found hmem
    obtain ⟨d, hd, rfl⟩ := List.mem_map.mp hmem
    have hkind := List.all_eq_true.mp (List.all_eq_true.mp hall b hb) d hd
    have hname : d.type.name = b.name := by simpa using List.find?_some hfind
    exact of_decide_eq_true hkind hname

/-- Of the types that the schema refers to, only the type of the echo may have many wrappers. -/
theorem references_echoSchema : ∀ x ∈ (echoSchema e others).references,
    x = e ∨ x.leaf ≠ "" ∧ x.wrappers.length ≤ Introspection.referenceDepth := by
  have hecho : ∀ x ∈ (echoType e).type.body.references, x = e := by
    change ∀ x ∈ [e, e], x = e
    simp
  intro x hx
  obtain ⟨t, ht, hx⟩ := List.mem_flatMap.mp hx
  rcases List.mem_cons.mp ht with rfl | ht
  · exact .inl (hecho x hx)
  · obtain ⟨d, hd, rfl⟩ := List.mem_map.mp (hothers t ht)
    rcases List.mem_cons.mp hd with rfl | hd
    · exact .inl (hecho x hx)
    · exact .inr (references_builtin hd x hx)

/-- The schema is read from its description, or the type of the echo is refused. -/
theorem ofJson_describe_echoSchema (hleaf : e.leaf ≠ "") :
    (e.wrappers.length ≤ Introspection.referenceDepth ∧
      Schema.ofJson (echoSchema e others).describe = .ok (echoSchema e others).schema) ∨
    ∃ kind, e.wrappers[Introspection.referenceDepth]? = some kind ∧
      Schema.ofJson (echoSchema e others).describe =
        .error (.integrity (.cutWrapper kind.spelling)) := by
  have hmem : e ∈ (echoSchema e others).references :=
    List.mem_flatMap.mpr ⟨_, List.mem_cons_self, List.mem_cons_self⟩
  have hnamed : ∀ x ∈ (echoSchema e others).references, x.leaf ≠ "" := by
    intro x hx
    rcases references_echoSchema hothers x hx with rfl | h
    · exact hleaf
    · exact h.1
  have houtcome := (echoSchema e others).ofJson_describe hnamed
  rcases houtcome with ⟨hshallow, hok⟩ | ⟨x, hx, kind, hkind, herror⟩
  · exact .inl ⟨hshallow e hmem, hok⟩
  · rcases references_echoSchema hothers x hx with rfl | h
    · exact .inr ⟨kind, hkind, herror⟩
    · rw [List.getElem?_eq_none h.2] at hkind
      cases hkind

end Others

/-! ## The file of an echo -/

theorem isName_scalar (hb : b ∈ Builtin.scalars) :
    isName b.name.toList = true ∧ '\r' ∉ b.name.toList := by
  have hall : (Builtin.scalars.all fun b => isName b.name.toList &&
      !b.name.toList.contains '\r') = true := by decide +kernel
  have hname := List.all_eq_true.mp hall b hb
  simpa only [Bool.and_eq_true, Bool.not_eq_true', List.contains_eq_mem, decide_eq_false_iff_not]
    using hname

theorem fileText_echoText {e : TypeExpr} (he : '\r' ∉ e.leaf.toList) :
    fileText (echoText e.print).toByteArray.data.toList = .ok (echoText e.print) := by
  have hprint : '\r' ∉ e.print.toList := TypeExpr.not_mem_print (by decide) he
  have hchars : (echoText e.print).toList = _ := toList_around _ _ _ _
  have hbreaks : ∀ c ∈ (echoText e.print).toList, c ≠ '\r' := by
    rintro c hc rfl
    rw [hchars] at hc
    simp [hprint] at hc
  have hsame : Text.normalizeBreaks (echoText e.print).toList = (echoText e.print).toList := by
    simpa [Text.normalizeBreaks] using Text.normalizeBreaks_append hbreaks []
  rw [fileText, Text.Encoding.decode_bytes]
  dsimp only
  rw [hsame, String.ofList_toList]

/-- The file that defines an echo holds what is read from the description of its schema. -/
theorem Schema.ofFile_echoText {file : String} {e : TypeExpr} (hfile : holdsDefinitions file = true)
    (hb : b ∈ Builtin.scalars) (he : e.leaf = b.name) (hmarks : ¬ e.Doubled) :
    ∃ others, (∀ d ∈ others, d ∈ (echoScope e).types.map TypeDefinition.type) ∧
      Schema.ofFile file (echoText e.print).toByteArray.data.toList =
        Schema.ofJson (echoSchema e others).describe := by
  obtain ⟨hname, hbreak⟩ := isName_scalar hb
  rw [← he] at hname hbreak
  obtain ⟨others, hdefined, hothers⟩ := definedSchema_echoDocument hb he
  have hread : (Document.parsePlaced (echoText e.print)).mapError DefinitionFault.notDocument =
      .ok (echoDocument e) := by
    rw [parsePlaced_echoText hname hmarks]
    rfl
  have htext : DefinedSchema.ofText (echoText e.print) = .ok (echoSchema e others) :=
    bind_eq_ok.mpr ⟨_, hread, hdefined⟩
  refine ⟨others, hothers, ?_⟩
  rw [Schema.ofFile, fileText_echoText hbreak]
  change (if holdsDefinitions file then Schema.ofDefinitions file _ else Schema.ofDump file _) = _
  rw [hfile, if_pos rfl, Schema.ofDefinitions, htext]
  rfl

/-- A type over a built-in scalar survives the file that defines an echo of it if it has at most
nine wrappers: it is the type of the field and of its argument. The tenth wrapper is refused. -/
theorem Schema.ofFile_signature {file : String} (hfile : holdsDefinitions file = true)
    (hb : b ∈ Builtin.scalars) (hname : t.leafName = .str b.name) (hkind : t.leafKind = .scalar)
    (hmarks : ¬ t.Doubled) :
    (t.wrappers.length ≤ 9 →
      ∃ s, Schema.ofFile file (echoText t.signature).toByteArray.data.toList = .ok s ∧
        s.query? = some ⟨.str "Query", .object, .null,
          [⟨.str "f", t, .null, [⟨.str "a", t, .null, .null⟩]⟩]⟩) ∧
    (10 ≤ t.wrappers.length →
      ∃ kind, t.wrappers[9]? = some kind ∧
        Schema.ofFile file (echoText t.signature).toByteArray.data.toList =
          .error (.integrity (.cutWrapper kind.spelling))) := by
  have hleaf : t.expr.leaf = b.name := by rw [t.leaf_expr, hname]; rfl
  have hnamed : t.expr.leaf ≠ "" := by
    intro hempty
    have h := (isName_scalar hb).1
    rw [← hleaf, hempty] at h
    cases h
  obtain ⟨others, hothers, hfound⟩ :=
    Schema.ofFile_echoText hfile hb hleaf (mt t.doubled_expr.mp hmarks)
  have htype : (echoSchema t.expr others).typeRef t.expr = t :=
    DefinedSchema.typeRef_expr hname ((kind_echoSchema hothers hb).trans hkind.symm)
  have hquery : (echoSchema t.expr others).schema.query? =
      some (echoDescription ((echoSchema t.expr others).typeRef t.expr)) :=
    query?_echoDescription _ _
  rw [htype] at hquery
  have houtcome := ofJson_describe_echoSchema hothers hnamed
  rw [t.wrappers_expr, ← hfound, t.print_expr] at houtcome
  rcases houtcome with ⟨hshallow, hok⟩ | ⟨kind, hwrapper, herror⟩
  · exact ⟨fun _ => ⟨_, hok, hquery⟩, fun hdeep => absurd hshallow (Nat.not_le_of_lt hdeep)⟩
  · have hdeep : 9 < t.wrappers.length := (List.getElem?_eq_some_iff.mp hwrapper).1
    exact ⟨fun hshallow => absurd hshallow (Nat.not_le_of_lt hdeep),
      fun _ => ⟨kind, hwrapper, herror⟩⟩

/-- Nine wrappers of an integer. -/
def nestedInt : TypeRef :=
  .nonNull (.list (.nonNull (.list (.nonNull (.list (.nonNull (.list (.nonNull
    (.named (.str "Int") .scalar)))))))))

theorem Schema.ofFile_signature_nestedInt :
    (∃ s, Schema.ofFile "s.graphqls" (echoText nestedInt.signature).toByteArray.data.toList =
        .ok s ∧
      s.query? = some ⟨.str "Query", .object, .null,
        [⟨.str "f", nestedInt, .null, [⟨.str "a", nestedInt, .null, .null⟩]⟩]⟩) ∧
    Schema.ofFile "s.graphqls" (echoText nestedInt.list.signature).toByteArray.data.toList =
      .error (.integrity (.cutWrapper "NON_NULL")) := by
  have hfile : holdsDefinitions "s.graphqls" = true := by decide +kernel
  have hint : Builtin.definition "Int" .scalar _ ∈ Builtin.scalars := List.mem_cons_self
  obtain ⟨kind, hkind, hcut⟩ := (Schema.ofFile_signature (t := nestedInt.list) hfile hint rfl rfl
    (by decide)).2 (by decide)
  cases hkind
  exact ⟨(Schema.ofFile_signature hfile hint rfl rfl (by decide)).1 (by decide), hcut⟩

end RequestBook
