import RequestBook.Proofs.Document.WellFormed
import RequestBook.Proofs.Token.Results

/-!
# Documents that are read are well-formed

Every reader of the request language gives well-formed trees, whatever tokens it is run on, so the
document that a text means is well-formed.
-/

namespace RequestBook

open TokenReader

/-! ## Values and directives -/

theorem gives_readVariable : Gives readVariable fun s => isName s.toList = true :=
  (gives_expect .dollar).bind fun _ _ => gives_name

theorem gives_refuseVariable {P : Value → Prop} : Gives refuseVariable P := by
  refine gives_current.bind fun _ _ => (gives_expect .dollar).bind fun _ _ => ?_
  refine gives_current.bind fun _ _ => ?_
  split
  · exact gives_reject _ _
  · exact gives_reject _ _

theorem gives_readMember {value : TokenReader Value} {P : Value → Prop} (h : Gives value P) :
    Gives (readMember value) fun m => isName m.1.toList = true ∧ P m.2 :=
  gives_name.bind fun _ hs => (gives_expect .colon).bind fun _ _ => h.bind fun _ hv => .pure ⟨hs, hv⟩

theorem Value.wellFormed_ofWord {word : String} (h : isName word.toList = true) (constant : Bool) :
    (Value.ofWord word).WellFormed constant := by
  by_cases htrue : word = "true"
  · rw [htrue]; exact .boolean true
  by_cases hfalse : word = "false"
  · rw [hfalse]; exact .boolean false
  by_cases hnull : word = "null"
  · rw [hnull]; exact .null
  have hword : Value.ofWord word = .enum word := by rw [Value.ofWord] <;> assumption
  rw [hword]
  exact .enum h hword

theorem gives_readValueWithin (constant : Bool) (levels : Nat) :
    Gives (readValueWithin constant levels) (Value.WellFormed constant) := by
  induction levels with
  | zero => exact gives_unexpected
  | succ levels ih =>
    refine gives_current.bind fun t ht => ?_
    have hlexeme := ht.lexeme
    split
    · exact (gives_any ih _ _).bind fun _ hvs => .pure (.list hvs)
    · refine (gives_any (gives_readMember ih) _ _).bind fun ms hms => .pure ?_
      exact .object (fun m hm => (hms m hm).1) (fun m hm => (hms m hm).2)
    · split
      · exact gives_refuseVariable
      · next hconstant =>
        exact gives_readVariable.bind fun _ hs => .pure (.variable (Bool.not_eq_true _ ▸ hconstant) hs)
    · next hl =>
      rw [hl] at hlexeme
      exact gives_advance.bind fun _ _ => .pure (.int hlexeme)
    · next hl =>
      rw [hl] at hlexeme
      exact gives_advance.bind fun _ _ => .pure (.float hlexeme)
    · exact gives_advance.bind fun _ _ => .pure (.string trivial)
    · next hl =>
      rw [hl] at hlexeme
      exact gives_advance.bind fun _ _ => .pure (.string hlexeme)
    · next hl =>
      rw [hl] at hlexeme
      exact gives_advance.bind fun _ _ => .pure (Value.wellFormed_ofWord hlexeme constant)
    · exact gives_unexpected

theorem gives_readValue (constant : Bool) : Gives (readValue constant) (Value.WellFormed constant) :=
  .bounded (gives_readValueWithin constant)

theorem gives_readArgument (constant : Bool) :
    Gives (readArgument constant) (ValueArgument.WellFormed constant) :=
  gives_name.bind fun _ hname => (gives_expect .colon).bind fun _ _ =>
    gives_current.bind fun _ ht => (gives_readValue constant).bind fun _ hv =>
      .pure ⟨hname, hv, ht.start⟩

theorem gives_readArguments (constant : Bool) :
    Gives (readArguments constant) fun xs => ∀ a ∈ xs, a.WellFormed constant :=
  gives_optionalMany (gives_readArgument constant) _ _

theorem gives_readDirective (constant : Bool) :
    Gives (readDirective constant) (Directive.WellFormed constant) :=
  gives_current.bind fun _ ht => (gives_expect .atSign).bind fun _ _ =>
    gives_name.bind fun _ hname => (gives_readArguments constant).bind fun _ harguments =>
      .pure ⟨hname, harguments, ht.start⟩

theorem gives_readDirectives (constant : Bool) :
    Gives (readDirectives constant) fun xs => ∀ d ∈ xs, d.WellFormed constant :=
  .bounded (gives_itemsWhile (gives_readDirective constant) .atSign)

/-! ## Types -/

theorem gives_closeType {base : TypeExpr} (h : base.WellFormed)
    (hbase : ∀ t, base ≠ .nonNull t) : Gives (TypeExpr.closeType base) TypeExpr.WellFormed := by
  refine (gives_skip .bang).bind fun c _ => ?_
  split
  · refine .pure ⟨h.1, fun hdoubled => ?_⟩
    cases hdoubled with
    | here t => exact hbase t rfl
    | nonNull hd => exact h.2 hd
  · exact .pure h

theorem gives_readTypeWithin (levels : Nat) : Gives (readTypeWithin levels) TypeExpr.WellFormed := by
  induction levels with
  | zero => exact gives_unexpected
  | succ levels ih =>
    rw [TypeExpr.readTypeWithin_succ]
    refine (gives_skip .bracketL).bind fun c _ => ?_
    split
    · refine ih.bind fun t ht => (gives_expect .bracketR).bind fun _ _ => ?_
      refine gives_closeType ⟨ht.1, fun hd => ?_⟩ (by simp)
      cases hd with
      | list hd => exact ht.2 hd
    · exact gives_name.bind fun s hs => gives_closeType ⟨hs, fun hd => nomatch hd⟩ (by simp)

theorem gives_readType : Gives readType TypeExpr.WellFormed := .bounded gives_readTypeWithin

/-! ## Operations and fragments -/

theorem gives_readDefault :
    Gives readDefault fun v => ∀ x ∈ v, x.WellFormed true := by
  refine (gives_skip .equals).bind fun c _ => ?_
  split
  · exact (gives_readValue true).bind fun v hv => .pure (by simpa using hv)
  · exact .pure (by simp)

theorem gives_readVariableDefinition :
    Gives readVariableDefinition VariableDefinition.WellFormed :=
  gives_readVariable.bind fun _ hname => (gives_expect .colon).bind fun _ _ =>
    gives_readType.bind fun _ htype => gives_readDefault.bind fun _ hdefault =>
      (gives_readDirectives true).bind fun _ hdirectives =>
        .pure ⟨hname, htype, hdefault, hdirectives⟩

/-- A name that is read is the text of the token in view. -/
theorem text?_of_name {n : Nat} {ts rest : List Token} {s : String}
    (h : name n ts = .ok (s, rest)) : (ts.headD ⟨.eof, none⟩).lexeme.text? = some s := by
  cases ts with
  | nil => cases h
  | cons t ts =>
    obtain ⟨l, start⟩ := t
    cases l with
    | name w =>
      change (advance n (⟨.name w, start⟩ :: ts) >>= fun p => Except.ok (w, p.2)) = _ at h
      cases hadvance : advance n (⟨.name w, start⟩ :: ts) with
      | error e => rw [hadvance] at h; cases h
      | ok p => rw [hadvance] at h; cases h; rfl
    | _ => cases h

/-- A name that is read behind a test of the token in view does not meet the test. -/
theorem Gives.name_unless {β : Type} {Q : β → Prop} {p : Option String → Prop} [DecidablePred p]
    {f : Token → TokenReader β} {g : String → TokenReader β} (hf : ∀ t, Gives (f t) Q)
    (hg : ∀ s, isName s.toList = true → ¬ p (some s) → Gives (g s) Q) :
    Gives (current >>= fun t => if p t.lexeme.text? then f t else name >>= g) Q := by
  intro n ts x rest hts h
  change (if p (ts.headD ⟨.eof, none⟩).lexeme.text? then f _ else name >>= g) n ts = _ at h
  split at h
  · exact hf _ n ts x rest hts h
  · next hp =>
    change (name n ts >>= fun q => g q.1 n q.2) = _ at h
    cases hname : name n ts with
    | error e => rw [hname] at h; cases h
    | ok q =>
      rw [text?_of_name hname] at hp
      obtain ⟨hs, hmid⟩ := gives_name n ts q.1 q.2 hts hname
      rw [hname] at h
      exact hg q.1 hs hp n q.2 x rest hmid h

theorem gives_readFragmentName :
    Gives readFragmentName fun s => isName s.toList = true ∧ s ≠ "on" := by
  rw [readFragmentName, ← bind_pure name]
  exact .name_unless (p := (· = some "on")) (fun _ => gives_unexpected)
    fun s hs hon => .pure ⟨hs, fun he => hon (by rw [he])⟩

/-- What is read behind the name of a field. -/
def closeField (selections : TokenReader (List Selection)) (label : Option String)
    (fieldName : String) : TokenReader Selection := do
  let arguments ← readArguments false
  let directives ← readDirectives false
  let inner ← if ← isAt .braceL then selections else pure []
  return .field label fieldName arguments directives inner

theorem readField_eq (selections : TokenReader (List Selection)) :
    readField selections = (name >>= fun first => skip? .colon >>= fun c =>
      if c = true then name >>= fun s => closeField selections (some first) s
      else closeField selections none first) := rfl

theorem gives_closeField {selections : TokenReader (List Selection)}
    (h : Gives selections fun xs => xs ≠ [] ∧ ∀ s ∈ xs, s.WellFormed) {label : Option String}
    {fieldName : String} (hlabel : ∀ s ∈ label, isName s.toList = true)
    (hname : isName fieldName.toList = true) :
    Gives (closeField selections label fieldName) Selection.WellFormed := by
  refine (gives_readArguments false).bind fun arguments harguments => ?_
  refine (gives_readDirectives false).bind fun directives hdirectives => ?_
  refine (gives_isAt .braceL).bind fun c _ => ?_
  split
  · exact h.bind fun _ hs => .pure (.field hlabel hname harguments hdirectives hs.2)
  · exact .pure (.field hlabel hname harguments hdirectives (by simp))

theorem gives_readField {selections : TokenReader (List Selection)}
    (h : Gives selections fun xs => xs ≠ [] ∧ ∀ s ∈ xs, s.WellFormed) :
    Gives (readField selections) Selection.WellFormed := by
  rw [readField_eq]
  refine gives_name.bind fun first hfirst => (gives_skip .colon).bind fun c _ => ?_
  split
  · exact gives_name.bind fun s hs => gives_closeField h (by simpa using hfirst) hs
  · exact gives_closeField h (by simp) hfirst

theorem gives_readSpread {selections : TokenReader (List Selection)}
    (h : Gives selections fun xs => xs ≠ [] ∧ ∀ s ∈ xs, s.WellFormed) :
    Gives (readSpread selections) Selection.WellFormed := by
  refine (gives_expect .spread).bind fun _ _ => (gives_skipKeyword "on").bind fun c _ => ?_
  split
  · refine gives_name.bind fun s hs => (gives_readDirectives false).bind fun ds hds => ?_
    exact h.bind fun _ hss => .pure (.inline (by simpa using hs) hds hss.1 hss.2)
  · refine gives_current.bind fun t _ => ?_
    split
    · refine gives_readFragmentName.bind fun s hs => ?_
      exact (gives_readDirectives false).bind fun ds hds => .pure (.spread hs.1 hs.2 hds)
    · refine (gives_readDirectives false).bind fun ds hds => ?_
      exact h.bind fun _ hss => .pure (.inline (by simp) hds hss.1 hss.2)

theorem gives_readSelectionWithin (levels : Nat) :
    Gives (readSelectionWithin levels) Selection.WellFormed := by
  induction levels with
  | zero => exact gives_unexpected
  | succ levels ih =>
    have hinner := gives_many ih .braceL .braceR
    refine (gives_isAt .spread).bind fun c _ => ?_
    split
    · exact gives_readSpread hinner
    · exact gives_readField hinner

theorem gives_readSelections :
    Gives readSelections fun xs => xs ≠ [] ∧ ∀ s ∈ xs, s.WellFormed :=
  gives_many (.bounded gives_readSelectionWithin) _ _

theorem gives_readOperationKind : Gives readOperationKind fun _ => True := by
  refine gives_current.bind fun t _ => gives_name.bind fun word _ => ?_
  split
  · exact .pure trivial
  · exact gives_reject _ _

/-- What is read behind the name of an operation. -/
def closeOperation (kind : OperationKind) (label : Option String) : TokenReader Operation := do
  let declared ← optionalMany .parenL readVariableDefinition .parenR
  let directives ← readDirectives false
  return ⟨kind, label, declared, directives, ← readSelections⟩

theorem gives_closeOperation (kind : OperationKind) {label : Option String}
    (hlabel : ∀ s ∈ label, isName s.toList = true) :
    Gives (closeOperation kind label) Operation.WellFormed := by
  refine (gives_optionalMany gives_readVariableDefinition _ _).bind fun _ hdeclared => ?_
  refine (gives_readDirectives false).bind fun _ hds => ?_
  exact gives_readSelections.bind fun _ hs => .pure ⟨hlabel, hdeclared, hds, hs.1, hs.2⟩

theorem gives_readOperation : Gives readOperation Operation.WellFormed := by
  refine (gives_isAt .braceL).bind fun c _ => ?_
  split
  · exact gives_readSelections.bind fun _ hs => .pure ⟨by simp, by simp, by simp, hs.1, hs.2⟩
  · refine gives_readOperationKind.bind fun kind _ => gives_current.bind fun t _ => ?_
    dsimp only
    split
    · refine (gives_name.map (Q := fun label => ∀ s ∈ label, isName s.toList = true) ?_).bind
        fun label hlabel => gives_closeOperation kind hlabel
      simp
    · exact gives_closeOperation kind (by simp)

theorem gives_readFragment : Gives readFragment Fragment.WellFormed := by
  refine (gives_expectKeyword "fragment").bind fun _ _ => ?_
  refine gives_readFragmentName.bind fun s hs => (gives_expectKeyword "on").bind fun _ _ => ?_
  refine gives_name.bind fun t ht => (gives_readDirectives false).bind fun ds hds => ?_
  exact gives_readSelections.bind fun _ hss => .pure ⟨hs.1, hs.2, ht, hds, hss.1, hss.2⟩

/-! ## Schema definitions -/

theorem gives_readDescription : Gives readDescription IsDescription := by
  refine gives_current.bind fun t ht => ?_
  have hlexeme := ht.lexeme
  split
  · exact gives_advance.bind fun _ _ =>
      .pure (by simp [IsDescription, StringLiteral.lexeme, Lexeme.Printable])
  · next hl =>
    rw [hl] at hlexeme
    exact gives_advance.bind fun _ _ =>
      .pure (by simpa [IsDescription, StringLiteral.lexeme] using hlexeme)
  · exact .pure (by simp [IsDescription])

theorem gives_readInputDefinition : Gives readInputDefinition InputDefinition.WellFormed := by
  refine gives_readDescription.bind fun _ hdescription => gives_name.bind fun _ hname => ?_
  refine (gives_expect .colon).bind fun _ _ => gives_readType.bind fun _ htype => ?_
  refine gives_readDefault.bind fun _ hdefault => (gives_readDirectives true).bind fun _ hds => ?_
  exact .pure ⟨hdescription, hname, htype, hdefault, hds⟩

theorem gives_readArgumentDefinitions :
    Gives readArgumentDefinitions fun xs => ∀ a ∈ xs, a.WellFormed :=
  gives_optionalMany gives_readInputDefinition _ _

theorem gives_readFieldDefinition : Gives readFieldDefinition FieldDefinition.WellFormed := by
  refine gives_readDescription.bind fun _ hdescription => gives_name.bind fun _ hname => ?_
  refine gives_readArgumentDefinitions.bind fun _ harguments =>
    (gives_expect .colon).bind fun _ _ => ?_
  refine gives_readType.bind fun _ htype => (gives_readDirectives true).bind fun _ hds => ?_
  exact .pure ⟨hdescription, hname, harguments, htype, hds⟩

theorem gives_readEnumValueDefinition :
    Gives readEnumValueDefinition EnumValueDefinition.WellFormed := by
  refine gives_readDescription.bind fun description hdescription => ?_
  refine .name_unless (p := (· ∈ [some "true", some "false", some "null"]))
    (fun _ => gives_reject _ _) fun s hs hfree => ?_
  exact (gives_readDirectives true).bind fun _ hds =>
    .pure ⟨hdescription, hs, by simpa using hfree, hds⟩

theorem gives_readInterfaces : Gives readInterfaces fun xs => ∀ s ∈ xs, isName s.toList = true := by
  refine (gives_skipKeyword "implements").bind fun c _ => ?_
  split
  · exact (gives_delimited gives_name .amp).mono fun _ h => h.2
  · exact .pure (by simp)

theorem gives_readMembers : Gives readMembers fun xs => ∀ s ∈ xs, isName s.toList = true := by
  refine (gives_skip .equals).bind fun c _ => ?_
  split
  · exact (gives_delimited gives_name .pipe).mono fun _ h => h.2
  · exact .pure (by simp)

theorem gives_readFields : Gives readFields fun xs => ∀ f ∈ xs, f.WellFormed :=
  gives_optionalMany gives_readFieldDefinition _ _

theorem gives_readTypeBody (keyword : String) :
    Gives (readTypeBody keyword) fun p => (∀ d ∈ p.1, d.WellFormed true) ∧ p.2.WellFormed := by
  unfold readTypeBody
  split
  · refine gives_readInterfaces.bind fun _ hi => (gives_readDirectives true).bind fun _ hds => ?_
    exact gives_readFields.bind fun _ hf => .pure ⟨hds, hi, hf⟩
  · refine gives_readInterfaces.bind fun _ hi => (gives_readDirectives true).bind fun _ hds => ?_
    exact gives_readFields.bind fun _ hf => .pure ⟨hds, hi, hf⟩
  · refine (gives_readDirectives true).bind fun _ hds => ?_
    exact gives_readMembers.bind fun _ hm => .pure ⟨hds, hm⟩
  · refine (gives_readDirectives true).bind fun _ hds => ?_
    exact (gives_optionalMany gives_readEnumValueDefinition _ _).bind fun _ hv => .pure ⟨hds, hv⟩
  · refine (gives_readDirectives true).bind fun _ hds => ?_
    exact (gives_optionalMany gives_readInputDefinition _ _).bind fun _ hf => .pure ⟨hds, hf⟩
  · exact (gives_readDirectives true).bind fun _ hds => .pure ⟨hds, trivial⟩

theorem gives_readTypeDefinition (keyword : String) :
    Gives (readTypeDefinition keyword) TypeDefinition.WellFormed := by
  refine gives_readDescription.bind fun _ hdescription => ?_
  refine (gives_expectKeyword keyword).bind fun _ _ => gives_name.bind fun _ hname => ?_
  refine (gives_readTypeBody keyword).bind fun p hp => ?_
  exact .pure ⟨hdescription, hname, hp.1, hp.2, by simp⟩

theorem gives_readTypeExtension (keyword : String) :
    Gives (readTypeExtension keyword) TypeDefinition.WellFormed := by
  refine (gives_expectKeyword "extend").bind fun _ _ => ?_
  refine (gives_expectKeyword keyword).bind fun _ _ => gives_name.bind fun _ hname => ?_
  refine (gives_readTypeBody keyword).bind fun ⟨ds, body⟩ hp => ?_
  dsimp only
  split
  · exact gives_unexpected
  · next hadds =>
    exact .pure ⟨by simp [IsDescription], hname, hp.1, hp.2,
      fun _ => ⟨rfl, Bool.not_eq_true _ ▸ hadds⟩⟩

theorem gives_readRoot : Gives readRoot fun root => isName root.2.toList = true :=
  gives_readOperationKind.bind fun _ _ => (gives_expect .colon).bind fun _ _ =>
    gives_name.bind fun _ hname => .pure hname

theorem gives_readSchemaDefinition : Gives readSchemaDefinition SchemaDefinition.WellFormed := by
  refine gives_readDescription.bind fun _ hdescription =>
    (gives_expectKeyword "schema").bind fun _ _ => ?_
  refine (gives_readDirectives true).bind fun _ hds => ?_
  exact (gives_many gives_readRoot _ _).bind fun _ hroots =>
    .pure ⟨hdescription, hds, hroots.2, fun _ => hroots.1, by simp⟩

theorem gives_readSchemaExtension : Gives readSchemaExtension SchemaDefinition.WellFormed := by
  refine (gives_expectKeyword "extend").bind fun _ _ =>
    (gives_expectKeyword "schema").bind fun _ _ => ?_
  refine (gives_readDirectives true).bind fun _ hds => ?_
  refine (gives_optionalMany gives_readRoot _ _).bind fun _ hroots => ?_
  split
  · exact gives_unexpected
  · next hadds =>
    exact .pure ⟨by simp [IsDescription], hds, hroots, by simp,
      fun _ => ⟨rfl, Bool.not_eq_true _ ▸ hadds⟩⟩

theorem gives_readDirectiveLocation : Gives readDirectiveLocation fun _ => True := by
  refine gives_current.bind fun t _ => gives_name.bind fun word _ => ?_
  split
  · exact .pure trivial
  · exact gives_reject _ _

theorem gives_readDirectiveDefinition :
    Gives readDirectiveDefinition DirectiveDefinition.WellFormed := by
  refine gives_readDescription.bind fun _ hdescription => ?_
  refine (gives_expectKeyword "directive").bind fun _ _ => (gives_expect .atSign).bind fun _ _ => ?_
  refine gives_name.bind fun _ hname => gives_readArgumentDefinitions.bind fun _ harguments => ?_
  refine (gives_skipKeyword "repeatable").bind fun _ _ =>
    (gives_expectKeyword "on").bind fun _ _ => ?_
  exact (gives_delimited gives_readDirectiveLocation _).bind fun _ hlocations =>
    .pure ⟨hdescription, hname, harguments, hlocations.1⟩

theorem gives_lookahead : Gives lookahead fun _ => True := by
  have hget : Gives (get : TokenReader (List Token)) fun _ => True := by
    intro n ts x rest hts hx
    cases hx
    exact ⟨trivial, hts⟩
  refine hget.bind fun ts _ => ?_
  dsimp only
  split
  · exact gives_reject _ _
  · exact .pure trivial

theorem gives_readExtension : Gives readExtension Definition.WellFormed := by
  refine gives_lookahead.bind fun t _ => ?_
  split
  · exact gives_readSchemaExtension.bind fun _ h => .pure h
  · split
    · exact (gives_readTypeExtension _).bind fun _ h => .pure h
    · exact gives_reject _ _
  · exact gives_reject _ _

/-! ## Documents -/

/-- What is defined, by the word in `t`, which says it. -/
def definitionOf (described : Bool) (first t : Token) (word : String) : TokenReader Definition := do
  if word = "schema" then return .schema (← readSchemaDefinition)
  else if word ∈ typeKeywords then return .type (← readTypeDefinition word)
  else if word = "directive" then return .directive (← readDirectiveDefinition)
  else if described then reject .describedOperation first
  else if word ∈ ["query", "mutation", "subscription"] then return .operation (← readOperation)
  else if word = "fragment" then return .fragment (← readFragment)
  else if word = "extend" then readExtension
  else reject (.unexpected t.lexeme) t

theorem gives_definitionOf (described : Bool) (first t : Token) (word : String) :
    Gives (definitionOf described first t word) Definition.WellFormed := by
  unfold definitionOf
  split
  · exact gives_readSchemaDefinition.bind fun _ h => .pure h
  split
  · exact (gives_readTypeDefinition _).bind fun _ h => .pure h
  split
  · exact gives_readDirectiveDefinition.bind fun _ h => .pure h
  split
  · exact gives_reject _ _
  split
  · exact gives_readOperation.bind fun _ h => .pure h
  split
  · exact gives_readFragment.bind fun _ h => .pure h
  split
  · exact gives_readExtension
  · exact gives_reject _ _

/-- A definition that the token `t` begins, behind the description if there is one. -/
def definitionFrom (described : Bool) (first t : Token) : TokenReader Definition := do
  match t.lexeme with
  | .name word => definitionOf described first t word
  | found => reject (.unexpected found) t

theorem gives_definitionFrom (described : Bool) (first t : Token) :
    Gives (definitionFrom described first t) Definition.WellFormed := by
  unfold definitionFrom
  split
  · exact gives_definitionOf described first t _
  · exact gives_reject _ _

theorem gives_readDefinition : Gives readDefinition Definition.WellFormed := by
  refine gives_current.bind fun first _ => ?_
  split
  · exact gives_readOperation.bind fun _ h => .pure h
  · generalize first.lexeme.isString = described
    cases described with
    | true => exact gives_lookahead.bind fun t _ => gives_definitionFrom true first t
    | false => exact gives_definitionFrom false first first

theorem gives_readDefinitions (n : Nat) :
    Gives (readDefinitions n) fun ds => ∀ d ∈ ds, d.WellFormed := by
  induction n with
  | zero => exact gives_unexpected
  | succ n ih =>
    refine gives_current.bind fun t _ => ?_
    split
    · exact .pure (by simp)
    · exact gives_readDefinition.bind fun d hd => ih.bind fun ds hds =>
        .pure (List.forall_mem_cons.mpr ⟨hd, hds⟩)

theorem gives_readDocument : Gives readDocument Document.WellFormed := by
  refine gives_checkCurrent.bind fun _ _ => gives_readDefinition.bind fun d hd => ?_
  exact (Gives.bounded gives_readDefinitions).bind fun ds hds =>
    .pure ⟨by simp, List.forall_mem_cons.mpr ⟨hd, hds⟩⟩

end RequestBook
