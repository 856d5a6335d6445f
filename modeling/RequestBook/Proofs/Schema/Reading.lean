import RequestBook.Proofs.Json.Keeping
import RequestBook.Proofs.Outcomes

/-!
# What is read of an introspection result

Of a result, only certain members of certain objects are read. Keeping these and dropping the
descriptions and the default values among them gives a result that is read as the same schema,
without its descriptions and default values, and that cannot be read exactly where the first one
cannot.
-/

namespace RequestBook

/-! ## References -/

namespace TypeRef

/-- What a wrapper of that kind makes of its inner part. -/
def wrapping (kind : Kind) : Option Json → Except Failure TypeRef
  | none | some .null => .error (.integrity (.cutWrapper kind.spelling))
  | some inner =>
    (TypeRef.ofJson inner).map fun item => if kind = .list then .list item else .nonNull item

variable {members : List (String × Json)} {kind : Kind}

theorem ofJson_badKind {e : Failure}
    (h : Kind.ofJson ((Json.obj members).memberOrNull "kind") = .error e) :
    TypeRef.ofJson (.obj members) = .error e := by
  rw [TypeRef.ofJson, h]
  rfl

theorem ofJson_wrapper (h : Kind.ofJson ((Json.obj members).memberOrNull "kind") = .ok kind)
    (hkind : kind.isWrapper = true) :
    TypeRef.ofJson (.obj members) = wrapping kind (members.lookup "ofType") := by
  rw [TypeRef.ofJson, h]
  change (if kind.isWrapper = true then _ else _) = _
  rw [if_pos hkind]
  split
  · next h => rw [h]; rfl
  · next h => rw [h]; rfl
  · next inner hnull h =>
    change (TypeRef.ofJson inner >>= fun item => _) = _
    rw [h, wrapping]
    · cases TypeRef.ofJson inner <;> rfl
    · exact hnull

theorem ofJson_leaf (h : Kind.ofJson ((Json.obj members).memberOrNull "kind") = .ok kind)
    (hkind : ¬ kind.isWrapper = true) :
    TypeRef.ofJson (.obj members) =
      if ((Json.obj members).memberOrNull "name").truthy then
        .ok (.named ((Json.obj members).memberOrNull "name") kind)
      else .error (.integrity (.unnamedReference kind.spelling)) := by
  rw [TypeRef.ofJson, h]
  change (if kind.isWrapper = true then _ else _) = _
  rw [if_neg hkind]
  rfl

theorem wrapping_congr {inner inner' : Json} (hnull : inner' = .null ↔ inner = .null)
    (h : TypeRef.ofJson inner' = TypeRef.ofJson inner) (kind : Kind) :
    wrapping kind (some inner') = wrapping kind (some inner) := by
  by_cases hinner : inner = .null
  · rw [hinner, hnull.mpr hinner]
  · rw [wrapping, wrapping, h]
    · exact hinner
    · exact mt hnull.mp hinner

theorem wrapping_eq_ok {inner : Json} {t : TypeRef} (h : wrapping kind (some inner) = .ok t) :
    ∃ item, TypeRef.ofJson inner = .ok item ∧
      t = if kind = .list then .list item else .nonNull item := by
  unfold wrapping at h
  split at h
  · cases h
  · cases h
  · next hsome =>
    cases hsome
    cases hitem : TypeRef.ofJson inner with
    | error e =>
      rw [hitem] at h
      cases h
    | ok item =>
      rw [hitem] at h
      cases h
      exact ⟨item, rfl, rfl⟩

end TypeRef

namespace Json

/-- A reference with its kind, with the name of a leaf and with what a wrapper is of. -/
def keptReference (j : Json) : Json :=
  match j with
  | .obj members =>
    match Kind.ofJson (j.memberOrNull "kind") with
    | .error _ => .obj [("kind", j.memberOrNull "kind")]
    | .ok kind =>
      if kind.isWrapper then
        match h : members.lookup "ofType" with
        | none => .obj [("kind", j.memberOrNull "kind")]
        | some inner =>
          have := sizeOf_lookup_lt h
          .obj [("kind", j.memberOrNull "kind"), ("ofType", inner.keptReference)]
      else .obj [("kind", j.memberOrNull "kind"), ("name", j.memberOrNull "name")]
  | _ => j
termination_by j

section Reference

variable {members : List (String × Json)} {kind : Kind}

theorem keptReference_badKind {e : Failure}
    (h : Kind.ofJson ((obj members).memberOrNull "kind") = .error e) :
    keptReference (.obj members) = .obj [("kind", (obj members).memberOrNull "kind")] := by
  rw [keptReference, h]

theorem keptReference_wrapper (h : Kind.ofJson ((obj members).memberOrNull "kind") = .ok kind)
    (hkind : kind.isWrapper = true) :
    keptReference (.obj members) = .obj (("kind", (obj members).memberOrNull "kind") ::
      ((members.lookup "ofType").map fun inner => ("ofType", inner.keptReference)).toList) := by
  rw [keptReference, h]
  change (if kind.isWrapper = true then _ else _) = _
  rw [if_pos hkind]
  split
  · next h => rw [h]; rfl
  · next inner h =>
    change obj [_, ("ofType", inner.keptReference)] = _
    rw [h]
    rfl

theorem keptReference_leaf (h : Kind.ofJson ((obj members).memberOrNull "kind") = .ok kind)
    (hkind : ¬ kind.isWrapper = true) :
    keptReference (.obj members) = .obj [("kind", (obj members).memberOrNull "kind"),
      ("name", (obj members).memberOrNull "name")] := by
  rw [keptReference, h]
  exact if_neg hkind

end Reference

theorem keptReference_eq_null {j : Json} : j.keptReference = .null ↔ j = .null := by
  cases j with
  | obj members =>
    refine iff_of_false ?_ (by simp)
    cases h : Kind.ofJson ((obj members).memberOrNull "kind") with
    | error e => rw [keptReference_badKind h]; simp
    | ok kind =>
      by_cases hkind : kind.isWrapper = true
      · rw [keptReference_wrapper h hkind]; simp
      · rw [keptReference_leaf h hkind]; simp
  | _ => rw [keptReference]; simp

end Json

/-- A reference is read as its kept part is. -/
theorem TypeRef.ofJson_keptReference (j : Json) :
    TypeRef.ofJson j.keptReference = TypeRef.ofJson j := by
  induction j using Json.keptReference.induct with
  | case1 members e h =>
    rw [Json.keptReference_badKind h, ofJson_badKind h]
    exact ofJson_badKind h
  | case2 members kind hkind hinner h =>
    rw [Json.keptReference_wrapper h hkind, ofJson_wrapper h hkind, hinner]
    exact ofJson_wrapper h hkind
  | case3 members kind hkind inner hinner _ h ih =>
    have hkept : TypeRef.ofJson (.obj [("kind", (Json.obj members).memberOrNull "kind"),
        ("ofType", inner.keptReference)]) = wrapping kind (some inner.keptReference) :=
      ofJson_wrapper h hkind
    rw [Json.keptReference_wrapper h hkind, ofJson_wrapper h hkind, hinner]
    exact hkept.trans (wrapping_congr Json.keptReference_eq_null ih kind)
  | case4 members kind hkind h =>
    rw [Json.keptReference_leaf h hkind, ofJson_leaf h hkind]
    exact ofJson_leaf h hkind
  | case5 j hj =>
    cases j with
    | obj members => exact absurd rfl (hj members)
    | _ => rw [Json.keptReference]; simp

/-! ## Arguments, fields and types -/

/-- An argument without its description and its default value. -/
def Argument.bare (a : Argument) : Argument := ⟨a.name, a.type, .null, .null⟩

def Field.bare (f : Field) : Field := ⟨f.name, f.type, .null, f.arguments.map Argument.bare⟩

def SchemaType.bare (t : SchemaType) : SchemaType := ⟨t.name, t.kind, .null, t.fields.map Field.bare⟩

def Schema.bare (s : Schema) : Schema := ⟨s.types.map SchemaType.bare⟩

namespace Json

def keptArgument : Json → Json := keep [("name", id), ("type", keptReference)]

def keptField : Json → Json :=
  keep [("name", id), ("type", keptReference), ("args", mapItems keptArgument)]

/-- A type with its kind, its name and the member that lists its fields. -/
def keptType (j : Json) : Json :=
  match Kind.ofJson (j.memberOrNull "kind") with
  | .error _ => j.keep [("kind", id)]
  | .ok kind => j.keep [("kind", id), ("name", id), (kind.fieldsMember, mapItems keptField)]

/-- What is read of a result but for descriptions and default values. -/
def kept (result : Json) : Json :=
  match Schema.node? result with
  | none => .null
  | some node => .obj [("__schema", node.keep [("types", mapItems keptType)])]

end Json

theorem Argument.ofJson_keptArgument (j : Json) :
    Argument.ofJson j.keptArgument = (Argument.ofJson j).map Argument.bare := by
  rw [Argument.ofJson, Argument.ofJson, Json.keptArgument, Json.required_keep rfl,
    Json.required_keep rfl, Json.memberOrNull_keep_none rfl, Json.memberOrNull_keep_none rfl]
  cases j.required "name" with
  | error e => rfl
  | ok name =>
    cases j.required "type" with
    | error e => rfl
    | ok type =>
      change (TypeRef.ofJson type.keptReference >>= _) = (TypeRef.ofJson type >>= _).map _
      rw [TypeRef.ofJson_keptReference]
      cases TypeRef.ofJson type <;> rfl

/-- The items of a list can be treated before they are read. -/
theorem bind_parts_mapItems {α β : Type} {treat : Json → Json}
    (htreat : ∀ s, treat (.str s) = .str s) {read : Json → Except Failure α} {after : α → α}
    (hread : ∀ j, read (treat j) = (read j).map after) {next next' : List α → Except Failure β}
    {after' : β → β} (hnext : ∀ xs, next (xs.map after) = (next' xs).map after') (j : Json) :
    ((j.mapItems treat).parts >>= fun items => items.mapM read >>= next) =
      (j.parts >>= fun items => items.mapM read >>= next').map after' := by
  rw [Json.parts_mapItems htreat]
  cases j.parts with
  | error e => rfl
  | ok items =>
    change ((items.map treat).mapM read >>= next) = (items.mapM read >>= next').map after'
    rw [mapM_map_eq_map hread]
    cases items.mapM read with
    | error e => rfl
    | ok xs => exact hnext xs

theorem Field.ofJson_keptField (j : Json) :
    Field.ofJson j.keptField = (Field.ofJson j).map Field.bare := by
  rw [Field.ofJson, Field.ofJson, Json.keptField, Json.required_keep rfl, Json.required_keep rfl,
    Json.memberOrNull_keep rfl rfl, Json.memberOrNull_keep_none rfl]
  cases j.required "name" with
  | error e => rfl
  | ok name =>
    cases j.required "type" with
    | error e => rfl
    | ok type =>
      change (TypeRef.ofJson type.keptReference >>= _) = (TypeRef.ofJson type >>= _).map _
      rw [TypeRef.ofJson_keptReference]
      cases TypeRef.ofJson type with
      | error e => rfl
      | ok type =>
        exact bind_parts_mapItems (fun _ => rfl) Argument.ofJson_keptArgument (fun _ => rfl)
          (j.memberOrNull "args")

/-- The member that lists the fields is none of the others that are read. -/
theorem Kind.lookup_fieldsMember (kind : Kind) (f g h : Json → Json) :
    [("kind", f), ("name", g), (kind.fieldsMember, h)].lookup kind.fieldsMember = some h := by
  rw [Kind.fieldsMember]
  split <;> rfl

theorem Kind.lookup_description (kind : Kind) (f g h : Json → Json) :
    [("kind", f), ("name", g), (kind.fieldsMember, h)].lookup "description" = none := by
  rw [Kind.fieldsMember]
  split <;> rfl

theorem SchemaType.ofJson_keptType (j : Json) :
    SchemaType.ofJson j.keptType = (SchemaType.ofJson j).map SchemaType.bare := by
  rw [SchemaType.ofJson, SchemaType.ofJson, Json.keptType]
  cases hkind : Kind.ofJson (j.memberOrNull "kind") with
  | error e =>
    rw [Json.objectMembers_keep, Json.memberOrNull_keep rfl rfl]
    cases j.objectMembers with
    | error e => rfl
    | ok members =>
      change (Kind.ofJson (j.memberOrNull "kind") >>= _) = _
      rw [hkind]
      rfl
  | ok kind =>
    change ((j.keep _).objectMembers >>= fun _ => Kind.ofJson ((j.keep _).memberOrNull "kind") >>= _) = _
    rw [Json.objectMembers_keep, Json.memberOrNull_keep rfl rfl]
    cases j.objectMembers with
    | error e => rfl
    | ok members =>
      change (Kind.ofJson (j.memberOrNull "kind") >>= _) = _
      rw [hkind]
      change ((j.keep _).required "name" >>= _) = (j.required "name" >>= _).map _
      rw [Json.required_keep rfl]
      cases j.required "name" with
      | error e => rfl
      | ok name =>
        change (((j.keep _).memberOrNull kind.fieldsMember).parts >>= _) = _
        rw [Json.memberOrNull_keep (kind.lookup_fieldsMember _ _ _) rfl,
          Json.memberOrNull_keep_none (kind.lookup_description _ _ _)]
        exact bind_parts_mapItems (fun _ => rfl) Field.ofJson_keptField (fun _ => rfl) _

/-! ## Results -/

theorem Schema.node?_kept (result : Json) :
    Schema.node? result.kept =
      (Schema.node? result).map fun node => node.keep [("types", Json.mapItems Json.keptType)] := by
  rw [Json.kept]
  cases hnode : Schema.node? result with
  | none => rfl
  | some node =>
    obtain ⟨members, rfl⟩ : ∃ members, node = .obj members := by
      rw [Schema.node?] at hnode
      split at hnode
      · next members _ => exact ⟨members, (Option.some.inj hnode).symm⟩
      · cases hnode
    rfl

/-- The types of a schema, as the member that lists them has them. -/
def Schema.ofTypes : Json → Except Failure Schema
  | .arr types => Schema.mk <$> types.mapM SchemaType.ofJson
  | _ => .error (.integrity .noTypes)

theorem Schema.ofJson_eq (result : Json) :
    Schema.ofJson result = match Schema.node? result with
      | none => .error (.integrity .noSchema)
      | some node => Schema.ofTypes (node.memberOrNull "types") := by
  rw [Schema.ofJson]
  cases Schema.node? result with
  | none => rfl
  | some node =>
    dsimp only
    cases node.memberOrNull "types" <;> rfl

theorem Schema.ofTypes_mapItems (j : Json) :
    Schema.ofTypes (j.mapItems Json.keptType) = (Schema.ofTypes j).map Schema.bare := by
  cases j with
  | arr types =>
    change (Schema.mk <$> (types.map Json.keptType).mapM SchemaType.ofJson) =
      (Schema.mk <$> types.mapM SchemaType.ofJson).map Schema.bare
    rw [mapM_map_eq_map SchemaType.ofJson_keptType]
    cases types.mapM SchemaType.ofJson <;> rfl
  | _ => rfl

/-- What is kept of a result is read as the same schema without its free texts. -/
theorem Schema.ofJson_kept (result : Json) :
    Schema.ofJson result.kept = (Schema.ofJson result).map Schema.bare := by
  rw [Schema.ofJson_eq, Schema.ofJson_eq, Schema.node?_kept]
  cases Schema.node? result with
  | none => rfl
  | some node =>
    change Schema.ofTypes ((node.keep _).memberOrNull "types") = (Schema.ofTypes _).map Schema.bare
    rw [Json.memberOrNull_keep rfl rfl, Schema.ofTypes_mapItems]

end RequestBook
