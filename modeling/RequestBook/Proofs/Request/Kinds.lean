import RequestBook.Proofs.Request.Synthesis

/-!
# Kinds that nobody knows

A field whose type is of a kind that is none of the eight known ones is left out of a selection, and
its kind is noted in a comment. The kind stands in the note as the server spells it. As long as it
has no line break it has no part in the request; behind a line break, the comment is over.
-/

namespace RequestBook

open Text RootCall

/-! ## Another kind for a field -/

/-- The reference with another kind of leaf. -/
def TypeRef.withLeafKind (k : Kind) : TypeRef → TypeRef
  | named n _ => .named n k
  | list t => .list (t.withLeafKind k)
  | nonNull t => .nonNull (t.withLeafKind k)

/-- The field with another kind of what it returns. -/
def Field.withKind (k : Kind) (f : Field) : Field := { f with type := f.type.withLeafKind k }

/-- The type with another kind of what its field in a place returns. -/
def SchemaType.withFieldKind (place : Nat) (k : Kind) (t : SchemaType) : SchemaType :=
  { t with fields := t.fields.modify place (Field.withKind k) }

/-- The schema with the type of a name changed in this way. -/
def Schema.withFieldKind (name : Json) (place : Nat) (k : Kind) (s : Schema) : Schema :=
  ⟨s.types.modify (s.types.findIdx (·.name.same name)) (SchemaType.withFieldKind place k)⟩

/-- What is selected of an object besides its field in a place: the other leaves, or the name of the
type if there are no others. -/
def SchemaType.selectedBeside (place : Nat) (t : SchemaType) : List String :=
  if { t with fields := t.fields.eraseIdx place }.leaves = [] then ["__typename"]
  else { t with fields := t.fields.eraseIdx place }.leaves

@[simp] theorem TypeRef.leafKind_withLeafKind (k : Kind) (t : TypeRef) :
    (t.withLeafKind k).leafKind = k := by
  induction t with
  | named n _ => rfl
  | list t ih => exact ih
  | nonNull t ih => exact ih

@[simp] theorem TypeRef.leafName_withLeafKind (k : Kind) (t : TypeRef) :
    (t.withLeafKind k).leafName = t.leafName := by
  induction t with
  | named n _ => rfl
  | list t ih => exact ih
  | nonNull t ih => exact ih

section Lists

variable {α : Type} {p : α → Bool} {g : α → α}

theorem find?_modify_findIdx (h : ∀ x, p (g x) = p x) (xs : List α) :
    (xs.modify (xs.findIdx p) g).find? p = (xs.find? p).map g := by
  induction xs with
  | nil => rfl
  | cons x xs ih =>
    cases hx : p x with
    | true => simp [List.findIdx_cons, hx, h]
    | false => simp [List.findIdx_cons, hx, ih]

theorem filter_modify (h : ∀ x, p (g x) = false) (xs : List α) (i : Nat) :
    (xs.modify i g).filter p = (xs.eraseIdx i).filter p := by
  induction xs generalizing i with
  | nil => simp
  | cons x xs ih =>
    cases i with
    | zero => simp [h]
    | succ i => simp [List.filter_cons, ih]

theorem forall_mem_modify {P : α → Prop} {xs : List α} (h : ∀ x ∈ xs, P x)
    (hg : ∀ x ∈ xs, P (g x)) (i : Nat) : ∀ x ∈ xs.modify i g, P x := by
  intro x hx
  obtain ⟨j, hj, rfl⟩ := List.mem_iff_getElem.mp hx
  rw [List.length_modify] at hj
  rw [List.getElem_modify]
  split
  · exact hg _ (List.getElem_mem hj)
  · exact h _ (List.getElem_mem hj)

end Lists

theorem Schema.find?_withFieldKind (s : Schema) (name : Json) (place : Nat) (k : Kind) :
    (s.withFieldKind name place k).find? name =
      (s.find? name).map (SchemaType.withFieldKind place k) :=
  find?_modify_findIdx (g := SchemaType.withFieldKind place k) (fun _ => rfl) s.types

theorem SchemaType.Named.withFieldKind {t : SchemaType} (h : t.Named) {k : Kind} (hk : k.IsLine)
    (place : Nat) : (t.withFieldKind place k).Named where
  names := forall_mem_modify (g := Field.withKind k) h.names h.names place
  descriptions := forall_mem_modify (g := Field.withKind k) h.descriptions h.descriptions place
  kinds := forall_mem_modify h.kinds (fun g _ => by
    rw [Field.withKind, TypeRef.leafKind_withLeafKind]
    exact hk) place

/-- A field that is no leaf has no part in what is selected. -/
theorem SchemaType.selected_withFieldKind {t : SchemaType} {k : Kind} (hobject : t.kind = .object)
    (hk : k.isLeaf = false) {place : Nat} (hplace : place < t.fields.length) :
    (t.withFieldKind place k).selected = t.selectedBeside place := by
  have hfields : (t.withFieldKind place k).fields ≠ [] := by
    rw [← List.length_pos_iff_ne_nil]
    simpa [SchemaType.withFieldKind] using Nat.lt_of_le_of_lt (Nat.zero_le place) hplace
  have hleaves : (t.withFieldKind place k).leaves =
      { t with fields := t.fields.eraseIdx place }.leaves := by
    rw [leaves, leaves, SchemaType.withFieldKind, filter_modify]
    intro g
    rw [Field.withKind, TypeRef.leafKind_withLeafKind, hk]
  rw [selected, if_pos ⟨hobject, by simpa using hfields⟩, hleaves, selectedBeside]

theorem Field.Named.withKind {f : Field} (h : f.Named) (k : Kind) : (f.withKind k).Named :=
  ⟨h.name, h.arguments, h.types⟩

theorem Field.call_withKind (kind : OperationKind) (f : Field) (k : Kind) (t : SchemaType) :
    (f.withKind k).call kind t = f.call kind t := rfl

/-! ## The request -/

theorem Kind.ofSpelling_of_not_known {k : String} (h : (Kind.ofSpelling k).isKnown = false) :
    Kind.ofSpelling k = .other k := by
  unfold Kind.ofSpelling at h ⊢
  split at h <;> first | rfl | cases h

/-- A field of such a kind is left out as an object is. -/
theorem synthesize_unknown {s : Schema} {f : Field} {t : SchemaType} {place : Nat} {k : String}
    (kind : OperationKind) (url : String) (hfound : s.find? f.type.leafName = some t)
    (hobject : t.kind = .object) (hplace : place < t.fields.length) (hf : f.Named) (ht : t.Named)
    (hdoubled : ¬ f.Doubled) (hk : (Kind.ofSpelling k).isKnown = false)
    (hline : ∀ c ∈ k.toList, c ≠ '\r' ∧ c ≠ '\n') (own : Kind) :
    synthesize .standard (s.withFieldKind f.type.leafName place (.ofSpelling k)) (f.withKind own)
      url kind.keyword =
    (Endpoint.ofUrl url).map ((Composition.mk
      (f.call kind (t.withFieldKind place .object)).document.print f.values).itemAt
        f.name.plain) := by
  have hother : (Kind.other k).IsLine := hline
  rw [Kind.ofSpelling_of_not_known hk]
  have hfind : (s.withFieldKind f.type.leafName place (.other k)).find?
      (f.withKind own).type.leafName = some (t.withFieldKind place (.other k)) := by
    rw [Field.withKind, TypeRef.leafName_withLeafKind, Schema.find?_withFieldKind, hfound]
    rfl
  have hcall : (f.withKind own).call kind (t.withFieldKind place (.other k)) =
      f.call kind (t.withFieldKind place .object) := by
    rw [Field.call_withKind, Field.call, Field.call,
      SchemaType.selected_withFieldKind hobject rfl hplace,
      SchemaType.selected_withFieldKind hobject rfl hplace]
  rw [synthesize_sound kind url (hf.withKind own) (ht.withFieldKind hother place) hfind hdoubled,
    hcall]
  rfl

/-- The spelling of a kind that nobody knows has no part in a request, unless it has a line break:
whatever it is, the field is left out and the request is made. -/
theorem synthesize_withFieldKind (s : Schema) (f : Field) (t : SchemaType) (place : Nat)
    (kind : OperationKind) (url : String) (hfound : s.find? f.type.leafName = some t)
    (hobject : t.kind = .object) (hplace : place < t.fields.length) (hf : f.Named) (ht : t.Named)
    (hdoubled : ¬ f.Doubled) (hurl : IsAbsolute url) :
    ∃ item,
      Document.parse item.request.body.query = .ok ⟨[.operation ⟨kind, some f.name.plain,
        f.arguments.map fun a => ⟨a.name.plain, a.type.expr, none, []⟩, [],
        [.field none f.name.plain
          (f.arguments.map fun a => ⟨a.name.plain, .variable a.name.plain, none⟩) []
          ((t.selectedBeside place).map fun leaf => .field none leaf [] [] [])]⟩]⟩ ∧
      ∀ k own, (Kind.ofSpelling k).isKnown = false → (∀ c ∈ k.toList, c ≠ '\r' ∧ c ≠ '\n') →
        synthesize .standard (s.withFieldKind f.type.leafName place (.ofSpelling k))
          (f.withKind own) url kind.keyword = .ok item := by
  obtain ⟨e, he⟩ := Endpoint.exists_ofUrl hurl
  have hnamed : (t.withFieldKind place .object).Named := ht.withFieldKind (by decide) place
  have hselected := SchemaType.selected_withFieldKind hobject (k := .object) rfl hplace
  refine ⟨(Composition.mk (f.call kind (t.withFieldKind place .object)).document.print
    f.values).itemAt f.name.plain e, ?_, fun k own hk hline => ?_⟩
  · have hparse := (hf.call hnamed kind).parse_print
      (Field.not_doubled_parameter hdoubled kind (t.withFieldKind place .object))
    rw [document_call, Field.document, hselected] at hparse
    rw [document_call, Field.document, hselected]
    exact hparse
  · rw [synthesize_unknown kind url hfound hobject hplace hf ht hdoubled hk hline own, he]
    rfl

/-- Two kinds in the place of a known one; the leaves next to it are selected as before. -/
theorem synthesize_withFieldKind_users :
    userType.selectedBeside 1 = ["id", "role"] ∧
    ∃ item,
      synthesize .standard (Schema.withFieldKind (.str "User") 1 (.ofSpelling "GHOST") ⟨[userType]⟩)
        usersField "https://api.example.com/graphql" "query" = .ok item ∧
      synthesize .standard (Schema.withFieldKind (.str "User") 1 (.ofSpelling "a # \u2028\x7d")
        ⟨[userType]⟩) usersField "https://api.example.com/graphql" "query" = .ok item := by
  obtain ⟨item, -, hsame⟩ := synthesize_withFieldKind ⟨[userType]⟩ usersField userType 1 .query
    "https://api.example.com/graphql" find?_userType rfl (by decide) (by decide) (by decide)
    (by decide) (by decide)
  exact ⟨by decide, item, hsame "GHOST" .object (by decide) (by simp),
    hsame "a # \u2028\x7d" .object (by decide) (by simp)⟩

/-! ## Kinds with a line break -/

/-- A name behind a line break of a kind stands behind the comment, so it is selected. -/
theorem line_broken {name suffix note leaf : String} (h : isName name.toList = true)
    (hsuffix : Remark suffix) (hnote : (Kind.other note).IsLine) (hleaf : isName leaf.toList = true)
    {ls : List Lexeme} {cs : List Char} (hcs : Spelling ls cs) :
    Spelling (leafLexemes leaf ++ ls)
      ((fieldLine name suffix (.other (note ++ "\n" ++ leaf))).toList ++ cs) := by
  have hbehind : Spelling (.name leaf :: ls) (leaf.toList ++ ('\n' :: cs)) :=
    .word hleaf rfl (.blank rfl hcs)
  have hnoted := line_noted h hsuffix hnote hbehind
  simpa [fieldLine, Kind.spelling, leafLexemes] using hnoted

/-- A user with a pet. -/
def ownerOfPet : SchemaType :=
  ⟨.str "User", .object, .null, [⟨.str "id", .named (.str "ID") .scalar, .null, []⟩,
    ⟨.str "pet", .named (.str "Pet") .object, .null, []⟩]⟩

/-- A user with a secret. -/
def ownerOfSecret : SchemaType :=
  ⟨.str "User", .object, .null, [⟨.str "id", .named (.str "ID") .scalar, .null, []⟩,
    ⟨.str "secret", .named (.str "String") .scalar, .null, []⟩]⟩

def ownerRoot : Field := ⟨.str "user", .named (.str "User") .object, .null, []⟩

theorem find?_ownerOfPet : Schema.find? ⟨[ownerOfPet]⟩ (.str "User") = some ownerOfPet := by
  simp [Schema.find?, ownerOfPet, Json.same]

/-- The pet's kind asks for the secret. -/
theorem synthesize_broken (url : String) :
    synthesize .standard (Schema.withFieldKind (.str "User") 1 (.ofSpelling "GHOST\nsecret")
      ⟨[ownerOfPet]⟩) ownerRoot url "query" =
    (Endpoint.ofUrl url).map ((Composition.mk (ownerRoot.call .query ownerOfSecret).document.print
      ownerRoot.values).itemAt "user") := by
  have hf : ownerRoot.Named := by decide
  have hbroken : Kind.ofSpelling "GHOST\nsecret" = .other ("GHOST" ++ "\n" ++ "secret") := by decide
  have hfind : (Schema.withFieldKind (.str "User") 1 (.ofSpelling "GHOST\nsecret")
      ⟨[ownerOfPet]⟩).find? ownerRoot.type.leafName =
        some (ownerOfPet.withFieldKind 1 (.other ("GHOST" ++ "\n" ++ "secret"))) := by
    rw [hbroken]
    exact (Schema.find?_withFieldKind _ _ _ _).trans (by rw [find?_ownerOfPet]; rfl)
  have hselection : Formatter.plain.selection
      (ownerOfPet.withFieldKind 1 (.other ("GHOST" ++ "\n" ++ "secret"))) =
        .ok (String.join ["\t\tid\n",
          fieldLine "pet" "\n" (.other ("GHOST" ++ "\n" ++ "secret"))]) := rfl
  have hspelling : Spelling (ownerOfSecret.selected.flatMap leafLexemes)
      (String.join ["\t\tid\n",
        fieldLine "pet" "\n" (.other ("GHOST" ++ "\n" ++ "secret"))]).toList := by
    have hpet : Spelling (leafLexemes "secret" ++ [])
        ((fieldLine "pet" "\n" (.other ("GHOST" ++ "\n" ++ "secret"))).toList ++ []) :=
      line_broken (by decide) .none (by decide) (by decide) .nil
    have hboth : Spelling (leafLexemes "id" ++ _) (("\t\t" ++ "id" ++ "\n").toList ++ _) :=
      line_leaf (by decide) .none hpet
    have hselected : ownerOfSecret.selected = ["id", "secret"] := by decide
    rw [hselected]
    simpa [String.join_cons] using hboth
  have hsource := hf.spelling_source (t := ownerOfSecret) .query (by decide) hspelling
  refine (synthesize_of_selection url rfl hf.strings hfind hselection "query").trans ?_
  rw [show "query" = OperationKind.query.keyword from rfl, normalizeSource_call
    (Field.not_doubled_parameter (by decide) .query ownerOfSecret) hsource]
  exact item_of_isName url _ hf.name

/-- Without a condition on line breaks, the spelling of a kind does have a part in a request. -/
theorem not_forall_synthesize_withFieldKind :
    ¬ ∀ (s : Schema) (f : Field) (t : SchemaType) (place : Nat) (kind : OperationKind)
      (url k k' : String), s.find? f.type.leafName = some t → t.kind = .object →
      place < t.fields.length → f.Named → t.Named → ¬ f.Doubled → IsAbsolute url →
      k ≠ "" → k' ≠ "" →
      (Kind.ofSpelling k).isKnown = false → (Kind.ofSpelling k').isKnown = false →
      ∃ item,
        synthesize .standard (s.withFieldKind f.type.leafName place (.ofSpelling k)) f url
          kind.keyword = .ok item ∧
        synthesize .standard (s.withFieldKind f.type.leafName place (.ofSpelling k')) f url
          kind.keyword = .ok item := by
  intro h
  have hf : ownerRoot.Named := by decide
  obtain ⟨item, hitem, hbroken⟩ := h ⟨[ownerOfPet]⟩ ownerRoot ownerOfPet 1 .query "http://h/g"
    "GHOST" "GHOST\nsecret" find?_ownerOfPet rfl (by decide) hf (by decide) (by decide) (by decide)
    (by decide) (by decide) (by decide) (by decide)
  obtain ⟨e, he⟩ := Endpoint.exists_ofUrl (show IsAbsolute "http://h/g" by decide)
  have hplain := synthesize_unknown (k := "GHOST") .query "http://h/g" find?_ownerOfPet rfl
    (show 1 < ownerOfPet.fields.length by decide) hf (by decide) (by decide) (by decide)
    (by simp) .object
  rw [he] at hplain
  have hsecret := synthesize_broken "http://h/g"
  rw [he] at hsecret
  have hsame := Except.ok.inj ((hplain.symm.trans hitem).trans (hbroken.symm.trans hsecret))
  have hquery : (ownerRoot.call .query (ownerOfPet.withFieldKind 1 .object)).document.print =
      (ownerRoot.call .query ownerOfSecret).document.print :=
    congrArg (·.request.body.query) hsame
  exact absurd hquery (by decide +kernel)

end RequestBook
