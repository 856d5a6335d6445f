import RequestBook.Proofs.Request.Synthesis
import RequestBook.Proofs.Schema.Reading

/-!
# Free text in a request

Descriptions and default values are free text. Two root fields that differ in nothing else stand
for the same call, so that they have the same request or fail for the same reason; only the text
that a failure quotes may differ.
-/

namespace RequestBook

/-! ## Outcomes that are the same -/

/-- Two outcomes that are the same, but for the composed text that a failure quotes. -/
inductive SameOutcome {α : Type} : Except Failure α → Except Failure α → Prop
  | ok (a : α) : SameOutcome (.ok a) (.ok a)
  | error (e : Failure) : SameOutcome (.error e) (.error e)
  | composition (e : SyntaxError) (source source' : String) :
      SameOutcome (.error (.composition e source)) (.error (.composition e source'))

namespace SameOutcome

variable {α β : Type}

theorem refl (x : Except Failure α) : SameOutcome x x := by
  cases x with
  | error e => exact .error e
  | ok a => exact .ok a

theorem bind {x x' : Except Failure α} {next next' : α → Except Failure β} (h : SameOutcome x x')
    (hnext : ∀ a, SameOutcome (next a) (next' a)) : SameOutcome (x >>= next) (x' >>= next') := by
  cases h with
  | ok a => exact hnext a
  | error e => exact .error e
  | composition e source source' => exact .composition e source source'

/-- Work on items that agree pairwise in what `g` shows of them. -/
theorem mapM {γ : Type} {f f' : α → Except Failure β} (g : α → γ) {xs xs' : List α}
    (hxs : xs.map g = xs'.map g)
    (h : ∀ x ∈ xs, ∀ x' ∈ xs', g x = g x' → SameOutcome (f x) (f' x')) :
    SameOutcome (xs.mapM f) (xs'.mapM f') := by
  induction xs generalizing xs' with
  | nil =>
    obtain rfl : xs' = [] := List.map_eq_nil_iff.mp hxs.symm
    exact .ok []
  | cons x xs ih =>
    obtain ⟨x', rest, rfl, hx, hrest⟩ := List.map_eq_cons_iff.mp hxs.symm
    rw [List.mapM_cons, List.mapM_cons]
    have hhead := h x List.mem_cons_self x' List.mem_cons_self hx.symm
    have htail := ih hrest.symm fun y hy y' hy' =>
      h y (List.mem_cons_of_mem x hy) y' (List.mem_cons_of_mem x' hy')
    exact hhead.bind fun b => htail.bind fun bs => .ok (b :: bs)

end SameOutcome

/-! ## What a call does not hold -/

theorem Field.values_bare (f : Field) : f.bare.values = f.values := by
  simp only [Field.values, Field.argumentTexts, ArgumentTexts.ofFormatted, Field.bare, List.map_map,
    List.length_map]
  rfl

theorem SchemaType.leaves_bare (t : SchemaType) : t.bare.leaves = t.leaves := by
  rw [SchemaType.leaves, SchemaType.leaves, SchemaType.bare, List.filter_map, List.map_map]
  rfl

theorem SchemaType.selected_bare (t : SchemaType) : t.bare.selected = t.selected := by
  have hempty : t.bare.fields.isEmpty = t.fields.isEmpty := List.isEmpty_map
  rw [SchemaType.selected, SchemaType.selected, SchemaType.leaves_bare, hempty]
  rfl

theorem Field.call_bare (kind : OperationKind) (f : Field) (t : SchemaType) :
    f.bare.call kind t.bare = f.call kind t := by
  rw [Field.call, Field.call, SchemaType.selected_bare, Field.bare, List.map_map]
  rfl

theorem Schema.find?_bare (s : Schema) (name : Json) :
    s.bare.find? name = (s.find? name).map SchemaType.bare := by
  rw [Schema.find?, Schema.find?, Schema.bare, List.find?_map]
  rfl

/-! ## Requests -/

/-- Texts that spell one call have the same outcome. -/
theorem sameOutcome_normalizeSource {c : RootCall} {source source' : String}
    (h : Spelling c.lexemes source.toList) (h' : Spelling c.lexemes source'.toList) :
    SameOutcome (normalizeSource source) (normalizeSource source') := by
  by_cases hc : ∃ p ∈ c.parameters, p.2.Doubled
  · obtain ⟨e, he⟩ := normalizeSource_doubled hc
    rw [he source h, he source' h']
    exact .composition e source source'
  · have hnone : ∀ p ∈ c.parameters, ¬ p.2.Doubled := fun p hp hd => hc ⟨p, hp, hd⟩
    rw [normalizeSource_call hnone h, normalizeSource_call hnone h']
    exact .ok _

/-- Root fields that differ in free text only have the same outcome, whatever texts describe the
fields of the types that they return. -/
theorem sameOutcome_synthesize {s s' : Schema} {f f' : Field} (hs : s.bare = s'.bare)
    (hbare : f.bare = f'.bare) (hf : f.Named) (hf' : f'.Named)
    (ht : ∀ t, s.find? f.type.leafName = some t → t.Named)
    (ht' : ∀ t, s'.find? f'.type.leafName = some t → t.Named) (kind : OperationKind) (url : String) :
    SameOutcome (synthesize .standard s f url kind.keyword)
      (synthesize .standard s' f' url kind.keyword) := by
  have hname : f.name = f'.name := by
    change f.bare.name = f'.bare.name
    rw [hbare]
  have htype : f.type = f'.type := by
    change f.bare.type = f'.bare.type
    rw [hbare]
  have hfind : (s.find? f.type.leafName).map SchemaType.bare =
      (s'.find? f'.type.leafName).map SchemaType.bare := by
    rw [← Schema.find?_bare, ← Schema.find?_bare, hs, htype]
  cases h : s.find? f.type.leafName with
  | none =>
    rw [h] at hfind
    have h' : s'.find? f'.type.leafName = none := Option.map_eq_none_iff.mp hfind.symm
    rw [synthesize_missing kind url hf h, synthesize_missing kind url hf' h', htype]
    exact .error _
  | some t =>
    rw [h] at hfind
    obtain ⟨t', h', hbare'⟩ := Option.map_eq_some_iff.mp hfind.symm
    have hcall : f.call kind t = f'.call kind t' := by
      rw [← Field.call_bare kind f t, ← Field.call_bare kind f' t', hbare, hbare']
    have hvalues : f.values = f'.values := by
      rw [← Field.values_bare f, ← Field.values_bare f', hbare]
    obtain ⟨source, hspelling, hsynthesize⟩ := synthesize_found kind url hf (ht t h) h
    obtain ⟨source', hspelling', hsynthesize'⟩ := synthesize_found kind url hf' (ht' t' h') h'
    rw [hcall] at hspelling
    rw [hsynthesize, hsynthesize', hvalues, hname]
    exact (sameOutcome_normalizeSource hspelling hspelling').bind fun query => .refl _

end RequestBook
