import RequestBook.Proofs.Schema.Describing

/-!
# References in an introspection result

A reference is written as objects inside of one another, linked by `ofType`: every object but the
last is a wrapper, and the last one names the leaf. Such chains are read and nothing else is. A
chain that ends with a wrapper is refused, so a result that was cut short is never taken for a
shorter type.
-/

namespace RequestBook

/-! ## Kinds and wrappers -/

/-- What a spelling means: a known kind of that spelling, or else the spelling itself. -/
def Kind.Means (spelling : String) (k : Kind) : Prop :=
  k.spelling = spelling ∧ (k.isKnown = false → ∀ known : Kind, known.isKnown = true →
    known.spelling ≠ spelling)

theorem Kind.means_ofSpelling (spelling : String) : Means spelling (ofSpelling spelling) := by
  refine ⟨spelling_ofSpelling spelling, fun hunknown known hknown hspelling => ?_⟩
  rw [← hspelling] at hunknown
  cases known with
  | other s => cases hknown
  | _ => cases hunknown

/-- The kinds of the wrappers, the outermost one first. -/
def TypeRef.wrappers : TypeRef → List Kind
  | named _ _ => []
  | list t => .list :: t.wrappers
  | nonNull t => .nonNull :: t.wrappers

/-! ## Chains -/

/-- The value is the first of some objects that are linked by `ofType`: wrappers, and then a leaf
that has a kind of its own and a name. -/
structure Json.Chain (j : Json) (outer : List Json) (leaf : Json) : Prop where
  first : (outer ++ [leaf]).head? = some j
  linked : (outer ++ [leaf]).IsChain fun node inner => node.member? "ofType" = some inner
  wrappers : ∀ node ∈ outer, node.member? "kind" = some (.str "LIST") ∨
    node.member? "kind" = some (.str "NON_NULL")
  kind : ∃ spelling, leaf.member? "kind" = some (.str spelling) ∧
    spelling ∉ ["", "LIST", "NON_NULL"]
  name : ∃ name, leaf.member? "name" = some name ∧ name.truthy = true

/-- The reference has the wrappers of a chain, in their order, and the name and kind of its leaf. -/
structure TypeRef.TakenFrom (t : TypeRef) (outer : List Json) (leaf : Json) : Prop where
  wrappers : outer.map (·.member? "kind") = t.wrappers.map fun kind => some (.str kind.spelling)
  name : leaf.member? "name" = some t.leafName
  kind : ∃ spelling, leaf.member? "kind" = some (.str spelling) ∧ t.leafKind.Means spelling

variable {j leaf : Json} {outer : List Json} {t : TypeRef} {kind : Kind}

/-! ## One link of a chain -/

namespace Json

theorem Chain.tail {node : Json} (h : j.Chain (node :: outer) leaf) :
    node = j ∧ ∃ inner, j.member? "ofType" = some inner ∧ inner.Chain outer leaf := by
  obtain rfl : node = j := Option.some.inj h.first
  obtain ⟨inner, rest, hrest⟩ : ∃ inner rest, outer ++ [leaf] = inner :: rest :=
    List.exists_cons_of_ne_nil (by simp)
  have hlinked := h.linked
  rw [List.cons_append, hrest, List.isChain_cons_cons] at hlinked
  have htail : inner.Chain outer leaf :=
    ⟨by rw [hrest]; rfl, by rw [hrest]; exact hlinked.2,
      fun x hx => h.wrappers x (List.mem_cons_of_mem node hx), h.kind, h.name⟩
  exact ⟨rfl, inner, hlinked.1, htail⟩

theorem Chain.cons {inner : Json} (h : inner.Chain outer leaf)
    (hinner : j.member? "ofType" = some inner)
    (hkind : j.member? "kind" = some (.str "LIST") ∨ j.member? "kind" = some (.str "NON_NULL")) :
    j.Chain (j :: outer) leaf := by
  obtain ⟨rest, hrest⟩ := List.head?_eq_some_iff.mp h.first
  have hlinked := h.linked
  rw [hrest] at hlinked
  refine ⟨rfl, ?_, List.forall_mem_cons.mpr ⟨hkind, h.wrappers⟩, h.kind, h.name⟩
  rw [List.cons_append, hrest]
  exact List.isChain_cons_cons.mpr ⟨hinner, hlinked⟩

end Json

namespace TypeRef

theorem TakenFrom.cons {node : Json} {u : TypeRef} (h : t.TakenFrom outer leaf)
    (hwrappers : u.wrappers = kind :: t.wrappers) (hname : u.leafName = t.leafName)
    (hleaf : u.leafKind = t.leafKind) (hkind : node.member? "kind" = some (.str kind.spelling)) :
    u.TakenFrom (node :: outer) leaf where
  wrappers := by rw [List.map_cons, hwrappers, List.map_cons, h.wrappers, hkind]
  name := by rw [hname, h.name]
  kind := by rw [hleaf]; exact h.kind

end TypeRef

/-! ## Chains are read -/

theorem Kind.eq_of_isWrapper (h : kind.isWrapper = true) : kind = .list ∨ kind = .nonNull := by
  simpa [isWrapper] using h

namespace Json

/-- The leaf of a chain is read as it is named. -/
theorem Chain.exists_leaf (h : j.Chain [] leaf) :
    ∃ t : TypeRef, t.Describable ∧ t.DescribedBy j ∧ t.TakenFrom [] leaf := by
  obtain rfl : leaf = j := Option.some.inj h.first
  obtain ⟨spelling, hkind, hspelling⟩ := h.kind
  obtain ⟨name, hname, htruthy⟩ := h.name
  simp only [List.mem_cons, List.not_mem_nil, or_false, not_or] at hspelling
  have hleaf : (Kind.ofSpelling spelling).isWrapper = false := by
    rw [Bool.eq_false_iff]
    intro hwrapper
    rcases Kind.eq_of_isWrapper hwrapper with heq | heq
    · exact hspelling.2.1 (by rw [← Kind.spelling_ofSpelling spelling, heq]; rfl)
    · exact hspelling.2.2 (by rw [← Kind.spelling_ofSpelling spelling, heq]; rfl)
  have hmeans := Kind.means_ofSpelling spelling
  have hdescribed : leaf.member? "kind" = some (.str (Kind.ofSpelling spelling).spelling) := by
    rw [hkind, hmeans.1]
  refine ⟨.named name (.ofSpelling spelling), ⟨⟨?_, ?_⟩, hleaf, htruthy⟩, ⟨hdescribed, hname⟩,
    rfl, hname, spelling, hkind, hmeans⟩
  · change (Kind.ofSpelling spelling).spelling ≠ ""
    rw [hmeans.1]
    exact hspelling.1
  · change Kind.ofSpelling (Kind.ofSpelling spelling).spelling = Kind.ofSpelling spelling
    rw [hmeans.1]

theorem Chain.exists_reference (h : j.Chain outer leaf) :
    ∃ t : TypeRef, t.Describable ∧ t.DescribedBy j ∧ t.TakenFrom outer leaf := by
  induction outer generalizing j with
  | nil => exact h.exists_leaf
  | cons node outer ih =>
    have hkind := h.wrappers node List.mem_cons_self
    obtain ⟨rfl, inner, hinner, htail⟩ := h.tail
    obtain ⟨t, ht, hdescribed, htaken⟩ := ih htail
    rcases hkind with hkind | hkind
    · exact ⟨.list t, ⟨ht.kind, ht.leaf, ht.name⟩, ⟨hkind, inner, hinner, hdescribed⟩,
        htaken.cons rfl rfl rfl hkind⟩
    · exact ⟨.nonNull t, ⟨ht.kind, ht.leaf, ht.name⟩, ⟨hkind, inner, hinner, hdescribed⟩,
        htaken.cons rfl rfl rfl hkind⟩

theorem Chain.ofJson (h : j.Chain outer leaf) :
    ∃ t, TypeRef.ofJson j = .ok t ∧ t.TakenFrom outer leaf := by
  obtain ⟨t, ht, hdescribed, htaken⟩ := h.exists_reference
  exact ⟨t, hdescribed.ofJson ht, htaken⟩

end Json

/-! ## What is read is a chain -/

theorem Kind.failsOnly_ofJson (j : Json) :
    FailsOnly (fun e => ∃ fault, e = .integrity fault) (Kind.ofJson j) := by
  intro e h
  unfold Kind.ofJson at h
  split at h
  · split at h <;> cases h
    exact ⟨_, rfl⟩
  · cases h
    exact ⟨_, rfl⟩

namespace TypeRef

end TypeRef

/-- The same chain down to the wrapper at a level, which is of nothing any more. What stands beside
kinds and links does not matter. -/
inductive Json.CutBelow : Nat → Json → Json → Prop
  | here {j cut : Json} (kind : cut.member? "kind" = j.member? "kind")
      (ended : cut.memberOrNull "ofType" = .null) : CutBelow 0 j cut
  | inside {level : Nat} {j cut inner inner' : Json} (kind : cut.member? "kind" = j.member? "kind")
      (link : j.member? "ofType" = some inner) (link' : cut.member? "ofType" = some inner')
      (below : CutBelow level inner inner') : CutBelow (level + 1) j cut

namespace TypeRef

/-- Every reference with a wrapper is of another one. -/
theorem DescribedBy.exists_inner (h : t.DescribedBy j) {ks : List Kind}
    (ht : t.wrappers = kind :: ks) :
    kind.isWrapper = true ∧ kind.Describable ∧ j.member? "kind" = some (.str kind.spelling) ∧
      ∃ (inner : Json) (u : TypeRef), j.member? "ofType" = some inner ∧ u.DescribedBy inner ∧
        u.wrappers = ks := by
  cases t with
  | named name kind => cases ht
  | list u =>
    cases ht
    obtain ⟨hkind, inner, hinner, hdescribed⟩ := h
    exact ⟨rfl, ⟨by decide, rfl⟩, hkind, inner, u, hinner, hdescribed, rfl⟩
  | nonNull u =>
    cases ht
    obtain ⟨hkind, inner, hinner, hdescribed⟩ := h
    exact ⟨rfl, ⟨by decide, rfl⟩, hkind, inner, u, hinner, hdescribed, rfl⟩

/-- A wrapper is read by reading what it is of. -/
theorem ofJson_of_member? (hkind : j.member? "kind" = some (.str kind.spelling))
    (hdescribable : kind.Describable) (hwrapper : kind.isWrapper = true) :
    TypeRef.ofJson j = wrapping kind (j.member? "ofType") := by
  obtain ⟨members, rfl, -⟩ := Json.eq_obj_of_member? hkind
  have hread : Kind.ofJson ((Json.obj members).memberOrNull "kind") = .ok kind := by
    rw [Json.memberOrNull_of_member? hkind, hdescribable.ofJson]
  exact ofJson_wrapper hread hwrapper

theorem wrapping_error {inner : Json} {e : Failure} (hinner : inner ≠ .null)
    (h : TypeRef.ofJson inner = .error e) : wrapping kind (some inner) = .error e := by
  rw [wrapping, h]
  · rfl
  · exact hinner

theorem wrapping_of_null (h : j.memberOrNull "ofType" = .null) :
    wrapping kind (j.member? "ofType") = .error (.integrity (.cutWrapper kind.spelling)) := by
  cases hmember : j.member? "ofType" with
  | none => rfl
  | some value =>
    rw [Json.memberOrNull_of_member? hmember] at h
    rw [h]
    rfl

theorem DescribedBy.ofJson_cut {level : Nat} {cut : Json} (hcut : j.CutBelow level cut)
    (h : t.DescribedBy j) (hkind : t.wrappers[level]? = some kind) :
    TypeRef.ofJson cut = .error (.integrity (.cutWrapper kind.spelling)) := by
  induction hcut generalizing t with
  | here hmember hended =>
    obtain ⟨ks, ht⟩ := List.head?_eq_some_iff.mp (by rwa [List.head?_eq_getElem?])
    obtain ⟨hwrapper, hdescribable, hj, -⟩ := h.exists_inner ht
    rw [ofJson_of_member? (hmember.trans hj) hdescribable hwrapper, wrapping_of_null hended]
  | inside hmember hlink hlink' _ ih =>
    obtain ⟨outermost, ks, ht⟩ := List.exists_cons_of_ne_nil
      (List.ne_nil_of_length_pos (Nat.zero_lt_of_lt (List.getElem?_eq_some_iff.mp hkind).1))
    obtain ⟨hwrapper, hdescribable, hj, inner, u, hinner, hdescribed, hu⟩ := h.exists_inner ht
    obtain rfl := Option.some.inj (hlink.symm.trans hinner)
    rw [ht, List.getElem?_cons_succ, ← hu] at hkind
    have hread := ih hdescribed hkind
    rw [ofJson_of_member? (hmember.trans hj) hdescribable hwrapper, hlink']
    refine wrapping_error ?_ hread
    rintro rfl
    rw [TypeRef.ofJson] at hread
    · cases hread
    · simp

/-! ## References and failures -/

theorem failsOnly_integrity (j : Json) :
    FailsOnly (fun e => ∃ fault, e = .integrity fault) (TypeRef.ofJson j) := by
  induction j using Json.keptReference.induct with
  | case1 members e hkind =>
    rw [ofJson_badKind hkind]
    exact .error (Kind.failsOnly_ofJson _ e hkind)
  | case2 members kind hwrapper hinner hkind =>
    rw [ofJson_wrapper hkind hwrapper, hinner]
    exact .error ⟨_, rfl⟩
  | case3 members kind hwrapper inner hinner _ hkind ih =>
    rw [ofJson_wrapper hkind hwrapper, hinner]
    unfold wrapping
    split
    · exact .error ⟨_, rfl⟩
    · exact .error ⟨_, rfl⟩
    · next hsome =>
      cases hsome
      exact ih.map _
  | case4 members kind hleaf hkind =>
    rw [ofJson_leaf hkind hleaf]
    split
    · exact .ok _
    · exact .error ⟨_, rfl⟩
  | case5 j hj =>
    rw [TypeRef.ofJson]
    · exact .error ⟨_, rfl⟩
    · exact hj

end TypeRef

end RequestBook
