import RequestBook.Proofs.Request.Kinds
import RequestBook.Proofs.Request.Stages

/-!
# Wrappers around results

What a root field returns is looked up by the name of its leaf, and the kind that is noted there
counts for nothing. What the fields of the returned type return is never looked up, and there
nothing counts but the kind of the leaf. Wrappers have no part in either.
-/

namespace RequestBook

/-- The type with other references in the places of those that its fields have. -/
def SchemaType.rewrapped (r : Nat → TypeRef → TypeRef) (t : SchemaType) : SchemaType :=
  { t with fields := t.fields.mapIdx fun place g => { g with type := r place g.type } }

/-- The schema with the type of a name changed in this way. -/
def Schema.rewrapped (name : Json) (r : Nat → TypeRef → TypeRef) (s : Schema) : Schema :=
  ⟨s.types.modify (s.types.findIdx (·.name.same name)) (SchemaType.rewrapped r)⟩

theorem Schema.find?_rewrapped (s : Schema) (name : Json) (r : Nat → TypeRef → TypeRef) :
    (s.rewrapped name r).find? name = (s.find? name).map (SchemaType.rewrapped r) :=
  find?_modify_findIdx (g := SchemaType.rewrapped r) (fun _ => rfl) s.types

theorem mapM_mapIdx {ε α β : Type} {f : α → Except ε β} {g : Nat → α → α}
    (h : ∀ place x, f (g place x) = f x) (xs : List α) : (xs.mapIdx g).mapM f = xs.mapM f := by
  induction xs generalizing g with
  | nil => rfl
  | cons x xs ih =>
    rw [List.mapIdx_cons, List.mapM_cons, List.mapM_cons, h, ih fun place => h (place + 1)]

/-! ## The selection -/

/-- The line of a field shows the kind of its leaf and nothing else of its type. -/
theorem Field.format_of_leafKind (g : Field) {u : TypeRef} (h : u.leafKind = g.type.leafKind) :
    { g with type := u }.format = g.format := by
  rw [Field.format, Field.format, h]

variable {r : Nat → TypeRef → TypeRef}

theorem SchemaType.selection_rewrapped (hr : ∀ place u, (r place u).leafKind = u.leafKind)
    (t : SchemaType) :
    Formatter.plain.selection (t.rewrapped r) = Formatter.plain.selection t := by
  have hlines : (t.rewrapped r).fields.mapM Formatter.plain.field =
      t.fields.mapM Formatter.plain.field :=
    mapM_mapIdx (fun place g => g.format_of_leafKind (hr place g.type)) t.fields
  have hempty : (t.rewrapped r).fields.isEmpty = t.fields.isEmpty := by
    rw [rewrapped, Bool.eq_iff_iff, List.isEmpty_iff, List.isEmpty_iff, List.mapIdx_eq_nil_iff]
  rw [Formatter.selection, Formatter.selection, hlines, hempty]
  rfl

theorem Schema.selection_rewrapped (hr : ∀ place u, (r place u).leafKind = u.leafKind) (s : Schema)
    (f : Field) {result : TypeRef} (hresult : result.leafName = f.type.leafName) :
    (s.rewrapped f.type.leafName r).selection { f with type := result } = s.selection f := by
  rw [selection, selection, returned, returned, hresult, find?_rewrapped]
  cases s.find? f.type.leafName with
  | none => rfl
  | some t => exact t.selection_rewrapped hr

/-! ## The request -/

/-- A request is the same, or fails for the same reason, whatever the reference to the returned
type, if only its leaf has the same name, and whatever the references in the returned type, if only
their leaves are of the same kinds. -/
theorem synthesize_rewrapped (source : TemplateSource) (s : Schema) (f : Field)
    (url operation : String) (result : TypeRef) (r : Nat → TypeRef → TypeRef)
    (hresult : result.leafName = f.type.leafName)
    (hr : ∀ place u, (r place u).leafKind = u.leafKind) :
    synthesize source (s.rewrapped f.type.leafName r) { f with type := result } url operation =
      synthesize source s f url operation :=
  synthesize_congr rfl rfl (s.selection_rewrapped hr f hresult)

/-- Lists of lists around the first field, another name for the leaf of the others, and a bare leaf of
a kind without a meaning for the field that returns a list of users. -/
theorem synthesize_rewrapped_users :
    ∃ item,
      synthesize .standard ⟨[userType]⟩ usersField "https://api.example.com/graphql" "query" =
        .ok item ∧
      synthesize .standard
        (Schema.rewrapped (.str "User") (fun place u =>
          if place = 0 then .list (.list u) else .nonNull (.named (.str "Other") u.leafKind))
          ⟨[userType]⟩)
        { usersField with type := .named (.str "User") .scalar }
        "https://api.example.com/graphql" "query" = .ok item := by
  have hsynthesize := synthesize_sound (f := usersField) .query "https://api.example.com/graphql"
    (by decide) (by decide) find?_userType (by decide)
  obtain ⟨e, he⟩ := Endpoint.exists_ofUrl
    (show IsAbsolute "https://api.example.com/graphql" by decide)
  rw [he] at hsynthesize
  refine ⟨_, hsynthesize, (synthesize_rewrapped .standard ⟨[userType]⟩ usersField
    "https://api.example.com/graphql" "query" (.named (.str "User") .scalar) _ rfl ?_).trans
      hsynthesize⟩
  intro place u
  split <;> rfl

end RequestBook
