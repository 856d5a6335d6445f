import RequestBook.Proofs.Collection.Assembly
import RequestBook.Proofs.Request.Synthesis
import RequestBook.Proofs.Schema.Validity

/-!
# The order of the types of a schema

A schema is asked for types by name, and the first type of a name answers. So types with names of
their own may stand in any order, and types that come behind all others are not asked as long as
the others have an answer: neither changes a collection.
-/

namespace RequestBook

namespace Schema

variable {source : TemplateSource} {s : Schema} {url : String} {types more : List SchemaType}

/-! ## Types in another order -/

theorem find?_perm (hstrings : ∀ t ∈ s.types, t.name.IsString)
    (hdistinct : (s.types.map SchemaType.name).Nodup) (h : types.Perm s.types) (name : Json) :
    Schema.find? ⟨types⟩ name = s.find? name := by
  have hstrings' : ∀ t ∈ types, t.name.IsString := fun t ht => hstrings t (h.subset ht)
  have hdistinct' : (types.map SchemaType.name).Nodup := (h.map _).nodup_iff.mpr hdistinct
  ext t
  rw [find?_eq_some_iff (s := ⟨types⟩) hstrings' hdistinct', find?_eq_some_iff hstrings hdistinct,
    h.mem_iff]

/-- Nothing but the finding of names comes into a collection. -/
theorem assemble_congr {s' : Schema} (h : ∀ name, s'.find? name = s.find? name) :
    s'.assemble source url = s.assemble source url := by
  have hroots : s'.rootFields = s.rootFields := by
    rw [rootFields, rootFields, query?, query?, mutation?, mutation?, h, h]
  have hrequests : s'.requestAlone source url = s.requestAlone source url := by
    funext root
    rw [requestAlone_eq, requestAlone_eq]
    exact synthesize_congr rfl rfl (by rw [selection, selection, returned, returned, h])
  cases hquery : s.query? with
  | none => rw [assemble_of_noQuery hquery, assemble_of_noQuery ((h _).trans hquery)]
  | some q =>
    rw [assemble_of_query hquery, assemble_of_query ((h _).trans hquery), hroots, hrequests]

/-! ## Types behind all others -/

theorem find?_append (s : Schema) (more : List SchemaType) (name : Json) :
    Schema.find? ⟨s.types ++ more⟩ name = (s.find? name).or (Schema.find? ⟨more⟩ name) :=
  List.find?_append

theorem find?_append_of_some {name : Json} {t : SchemaType} (h : s.find? name = some t)
    (more : List SchemaType) : Schema.find? ⟨s.types ++ more⟩ name = some t := by
  rw [find?_append, h, Option.some_or]

theorem mutation?_append (h : s.mutation? ≠ none ∨ Schema.mutation? ⟨more⟩ = none) :
    Schema.mutation? ⟨s.types ++ more⟩ = s.mutation? := by
  rw [mutation?, find?_append, ← mutation?, ← mutation?]
  rcases h with h | h
  · obtain ⟨t, ht⟩ := Option.ne_none_iff_exists'.mp h
    rw [ht, Option.some_or]
  · rw [h, Option.or_none]

/-- A request that is made finds its returned type, and finds it as well if more types follow. -/
theorem requestAlone_append {root : Field × String} {item : Item}
    (h : s.requestAlone source url root = .ok item) (more : List SchemaType) :
    Schema.requestAlone source ⟨s.types ++ more⟩ url root = .ok item := by
  rw [requestAlone_eq] at h ⊢
  -- The returned type is the only one that a request asks for, and it was found among the first.
  obtain ⟨t, ht⟩ := exists_returned_of_synthesize h
  have hfind : s.find? root.1.type.leafName = some t := by
    rw [returned] at ht
    split at ht
    · cases ht
      assumption
    · cases ht
  rw [← h]
  exact synthesize_congr rfl rfl
    (by rw [selection, selection, returned, returned, find?_append_of_some hfind, hfind])

theorem assemble_append {c : Collection} (hc : s.assemble source url = .ok c)
    (h : s.mutation? ≠ none ∨ Schema.mutation? ⟨more⟩ = none) :
    Schema.assemble source ⟨s.types ++ more⟩ url = .ok c := by
  cases hquery : s.query? with
  | none =>
    rw [assemble_of_noQuery hquery] at hc
    cases hc
  | some q =>
    obtain ⟨items, e, hitems, he, rfl⟩ := (assemble_eq_ok hquery).mp hc
    have hquery' : Schema.query? ⟨s.types ++ more⟩ = some q := find?_append_of_some hquery more
    have hroots : Schema.rootFields ⟨s.types ++ more⟩ = s.rootFields := by
      rw [rootFields, rootFields, hquery', hquery, mutation?_append h]
    refine (assemble_eq_ok hquery').mpr ⟨items, e, ?_, he, rfl⟩
    rw [hroots]
    exact hitems.imp fun root item hitem => requestAlone_append hitem more

/-! ## Stability -/

/-- The order of types with distinct names has no part in a collection or in a failure, and types
behind those that a collection was made of have no part in the collection, whatever their names,
unless one of them is the first mutation type. -/
theorem assemble_stable (source : TemplateSource) (s : Schema) (url : String) :
    ((∀ t ∈ s.types, t.name.IsString) → (s.types.map SchemaType.name).Nodup →
      ∀ types : List SchemaType, types.Perm s.types →
        Schema.assemble source ⟨types⟩ url = s.assemble source url) ∧
    ∀ c, s.assemble source url = .ok c → ∀ more : List SchemaType,
      s.mutation? ≠ none ∨ Schema.mutation? ⟨more⟩ = none →
        Schema.assemble source ⟨s.types ++ more⟩ url = .ok c :=
  ⟨fun hstrings hdistinct _ h => assemble_congr (find?_perm hstrings hdistinct h),
    fun _ hc _ h => assemble_append hc h⟩

/-- A schema that answers with a list of users. -/
def usersSchema : Schema := ⟨[⟨.str "Query", .object, .null, [usersField]⟩, userType]⟩

theorem exists_assemble_usersSchema :
    ∃ c, usersSchema.assemble .standard "https://api" = .ok c := by
  have hquery : usersSchema.query? = some ⟨.str "Query", .object, .null, [usersField]⟩ := by
    simp [query?, find?, usersSchema, Json.same]
  have hmutation : usersSchema.mutation? = none := by
    simp [mutation?, find?, usersSchema, userType, Json.same]
  have hroots : usersSchema.rootFields = [(usersField, "query")] := by
    rw [rootFields, hquery, hmutation]
    rfl
  have hfind : usersSchema.find? usersField.type.leafName = some userType := by
    simp [find?, usersSchema, usersField, userType, TypeRef.leafName, Json.same]
  have hrequest := synthesize_sound (f := usersField) .query "https://api" (by decide) (by decide)
    hfind (by decide)
  obtain ⟨e, he⟩ := Endpoint.exists_ofUrl (show IsAbsolute "https://api" by decide)
  rw [he] at hrequest
  obtain ⟨item, hitem⟩ : ∃ item,
      usersSchema.requestAlone .standard "https://api" (usersField, "query") = .ok item :=
    ⟨_, (requestAlone_eq _ _ _ _).trans hrequest⟩
  refine ⟨_, (assemble_eq_ok hquery).mpr ⟨[item], e, ?_, he, rfl⟩⟩
  rw [hroots]
  exact .cons hitem .nil

/-- The types of the schema the other way round, and behind them other types of the same names. -/
theorem assemble_stable_users :
    ∃ c, usersSchema.assemble .standard "https://api" = .ok c ∧
      Schema.assemble .standard ⟨usersSchema.types.reverse⟩ "https://api" = .ok c ∧
      Schema.assemble .standard
        ⟨usersSchema.types ++
          [⟨.str "User", .scalar, .null, []⟩, ⟨.str "Query", .object, .null, []⟩]⟩
        "https://api" = .ok c := by
  obtain ⟨c, hc⟩ := exists_assemble_usersSchema
  obtain ⟨hreordered, hextended⟩ := assemble_stable .standard usersSchema "https://api"
  have hstrings : ∀ t ∈ usersSchema.types, t.name.IsString := by
    simp [usersSchema, userType, Json.IsString]
  have hdistinct : (usersSchema.types.map SchemaType.name).Nodup := by
    simp [usersSchema, userType]
  refine ⟨c, hc, ?_, hextended c hc _ (.inr ?_)⟩
  · rw [hreordered hstrings hdistinct _ (List.reverse_perm _), hc]
  · simp [mutation?, find?, Json.same]

end Schema

end RequestBook
