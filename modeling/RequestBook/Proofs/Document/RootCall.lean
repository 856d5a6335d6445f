import RequestBook.Proofs.Document.TypeExpr

/-!
# Calls of root fields

Every request is one operation that calls one root field. This module holds such calls as data of
their own, the documents they stand for and the lexemes they are written with, and shows that the
reader of documents takes exactly that document from those lexemes. A call with a doubled
exclamation mark in a type is refused.
-/

namespace RequestBook

open TokenReader

/-- A call of a root field: its parameters with their types, and the leaves that it asks for. -/
structure RootCall where
  kind : OperationKind
  name : String
  parameters : List (String × TypeExpr)
  selected : List String
  deriving DecidableEq

namespace RootCall

/-! ## The document of a call -/

/-- A parameter is declared with its type, without a default and without directives. -/
def variableDefinition (p : String × TypeExpr) : VariableDefinition := ⟨p.1, p.2, none, []⟩

/-- A parameter is passed on as the variable of its name. -/
def callArgument (p : String × TypeExpr) : ValueArgument := ⟨p.1, .variable p.1, none⟩

def leafSelection (name : String) : Selection := .field none name [] [] []

def selection (c : RootCall) : Selection :=
  .field none c.name (c.parameters.map callArgument) [] (c.selected.map leafSelection)

def operation (c : RootCall) : Operation :=
  ⟨c.kind, some c.name, c.parameters.map variableDefinition, [], [c.selection]⟩

def document (c : RootCall) : Document := ⟨[.operation c.operation]⟩

/-! ## The lexemes of a call -/

def declared (p : String × TypeExpr) : List Lexeme :=
  .punctuator .dollar :: .name p.1 :: .punctuator .colon :: p.2.lexemes

def given (p : String × TypeExpr) : List Lexeme :=
  [.name p.1, .punctuator .colon, .punctuator .dollar, .name p.1]

def leafLexemes (name : String) : List Lexeme := [.name name]

def selectionLexemes (c : RootCall) : List Lexeme :=
  .name c.name :: (enclosed .parenL .parenR (c.parameters.flatMap given) ++
    enclosed .braceL .braceR (c.selected.flatMap leafLexemes))

def lexemes (c : RootCall) : List Lexeme :=
  .name c.kind.keyword :: .name c.name ::
    (enclosed .parenL .parenR (c.parameters.flatMap declared) ++
      .punctuator .braceL :: (c.selectionLexemes ++ [.punctuator .braceR]))

/-! ## Reading the parts -/

variable {n k : Nat} {l : Lexeme} {ls rest : List Lexeme}

theorem takes_readDirectives (constant : Bool) (hl : l ≠ .punctuator .atSign) (ls : List Lexeme) :
    Takes n (readDirectives constant) (l :: ls) [] (l :: ls) := by
  refine takes_bounded ?_
  cases n with
  | zero => exact .pure [] _
  | succ n =>
    exact (takes_isAt_absent hl ls).bind_false (.pure [] _)

theorem takes_readVariable (s : String) (h : Sound rest) :
    Takes n readVariable (.punctuator .dollar :: .name s :: rest) s rest :=
  (takes_expect _ (sound_name s rest)).bind (takes_name s h)

theorem takes_readDefault (hl : l ≠ .punctuator .equals) (ls : List Lexeme) :
    Takes n readDefault (l :: ls) none (l :: ls) :=
  (takes_skip_absent hl ls).bind_false (.pure none _)

/-- A declaration is what its type is followed by. -/
theorem takes_declared (p : String × TypeExpr) {t : TypeExpr} (hl : l ≠ .punctuator .equals)
    (hl' : l ≠ .punctuator .atSign)
    (ht : Takes n (readTypeWithin n) (p.2.lexemes ++ rest) t (l :: ls)) :
    Takes n readVariableDefinition (declared p ++ rest) ⟨p.1, t, none, []⟩ (l :: ls) := by
  have ht' : Takes n readType _ t (l :: ls) := takes_bounded ht
  exact (takes_readVariable p.1 (sound_punctuator _ _)).bind
    ((takes_expect .colon (p.2.sound_lexemes rest)).bind
      (ht'.bind ((takes_readDefault hl ls).bind
        ((takes_readDirectives true hl' ls).bind (.pure _ _)))))

theorem takes_given (p : String × TypeExpr) (h : Sound rest) (hn : 0 < n) :
    Takes n (readArgument false) (given p ++ rest) (callArgument p) rest := by
  obtain ⟨k, rfl⟩ := Nat.exists_eq_succ_of_ne_zero (Nat.ne_of_gt hn)
  have hvalue : Takes (k + 1) (readValue false)
      (.punctuator .dollar :: .name p.1 :: rest) (.variable p.1) rest := by
    refine takes_bounded ?_
    rw [readValueWithin]
    exact (takes_current _ _).bind ((takes_readVariable p.1 h).bind (.pure _ _))
  exact (takes_name p.1 (sound_punctuator _ _)).bind
    ((takes_expect .colon (sound_punctuator _ _)).bind
      ((takes_current _ _).bind (hvalue.bind (.pure _ _))))

/-- What a name or a closing punctuator may follow is sound, and it opens nothing. -/
theorem sound_following {p : Punctuator} (hl : (∃ s, l = .name s) ∨ l = .punctuator p)
    (ls : List Lexeme) : Sound (l :: ls) := by
  rcases hl with ⟨s, rfl⟩ | rfl
  · exact sound_name s ls
  · exact sound_punctuator p ls

theorem ne_of_following {p q : Punctuator} (hl : (∃ s, l = .name s) ∨ l = .punctuator p)
    (hq : q ≠ p) : l ≠ .punctuator q := by
  rcases hl with ⟨s, rfl⟩ | rfl
  · simp
  · simpa using hq.symm

theorem takes_leaf (name : String) (hl : (∃ s, l = .name s) ∨ l = .punctuator .braceR)
    (ls : List Lexeme) :
    Takes n (readSelectionWithin (k + 1)) (leafLexemes name ++ l :: ls) (leafSelection name)
      (l :: ls) := by
  have hs := sound_following hl ls
  have hne (p : Punctuator) (hp : p ≠ .braceR) : l ≠ .punctuator p := ne_of_following hl hp
  have hno := takes_isAt_absent (n := n) (hne .braceL (by decide)) ls
  have harguments : Takes n (readArguments false) (l :: ls) [] (l :: ls) :=
    (takes_isAt_absent (hne .parenL (by decide)) ls).bind_false (.pure [] _)
  rw [readSelectionWithin]
  refine (takes_isAt .spread _ _).bind_false ?_
  exact (takes_name name hs).bind ((takes_skip_absent (hne .colon (by decide)) ls).bind_false
    ((Takes.pure _ _).bind (harguments.bind
      ((takes_readDirectives false (hne .atSign (by decide)) ls).bind
        (hno.bind_false ((Takes.pure _ _).bind (.pure _ _)))))))

/-! ## Reading the repetitions -/

theorem items_declared {ps : List (String × TypeExpr)}
    (h : ∀ p ∈ ps, ¬ p.2.Doubled ∧ p.2.depth < n) :
    Items n readVariableDefinition .parenR (· = .punctuator .dollar) declared variableDefinition
      ps where
  apart := by simp
  sound := by simp
  head p _ := ⟨_, _, rfl, rfl⟩
  takes p hp l ls hl := by
    have hbang : l ≠ .punctuator .bang := by rcases hl with rfl | rfl <;> simp
    have hequals : l ≠ .punctuator .equals := by rcases hl with rfl | rfl <;> simp
    have hat : l ≠ .punctuator .atSign := by rcases hl with rfl | rfl <;> simp
    have hs : Sound (l :: ls) := by rcases hl with rfl | rfl <;> exact sound_punctuator _ _
    obtain ⟨hdoubled, hdepth⟩ := h p hp
    exact takes_declared p hequals hat
      (TypeExpr.takes_lexemes hdoubled hdepth hs (Or.inl hbang))

theorem items_given (ps : List (String × TypeExpr)) (hn : 0 < n) :
    Items n (readArgument false) .parenR (∃ s, · = .name s) given callArgument ps where
  apart := by simp
  sound := by rintro _ ⟨s, rfl⟩; simp
  head p _ := ⟨_, _, rfl, p.1, rfl⟩
  takes p _ _ ls hl := takes_given p (sound_following hl ls) hn

theorem items_leaves (names : List String) :
    Items n (readSelectionWithin (k + 1)) .braceR (∃ s, · = .name s) leafLexemes leafSelection
      names where
  apart := by simp
  sound := by rintro _ ⟨s, rfl⟩; simp
  head s _ := ⟨_, _, rfl, s, rfl⟩
  takes s _ _ ls hl := takes_leaf s hl ls

/-- The selection of a root field, with a level to spare for its leaves. -/
theorem takes_selection (c : RootCall) (hparameters : c.parameters.length ≤ n)
    (hselected : c.selected.length ≤ n) (hn : 0 < n)
    (hl : (∃ s, l = .name s) ∨ l = .punctuator .braceR) (ls : List Lexeme) :
    Takes n (readSelectionWithin (k + 2)) (c.selectionLexemes ++ l :: ls) c.selection (l :: ls) := by
  have hs := sound_following hl ls
  have hlne (p : Punctuator) (hp : p ≠ .braceR) : l ≠ .punctuator p := ne_of_following hl hp
  obtain ⟨m, ms, hm, hms, hmem⟩ :=
    enclosed_append .braceL .braceR (c.selected.flatMap leafLexemes) hs
  have hne (p : Punctuator) (hp : p ≠ .braceL) (hp' : p ≠ .braceR) : m ≠ .punctuator p := by
    rcases hmem with rfl | rfl
    · simpa using hp.symm
    · exact hlne p hp'
  obtain ⟨m', ms', hm', hms', hmem'⟩ :=
    enclosed_append .parenL .parenR (c.parameters.flatMap given) hms
  have hcolon : m' ≠ .punctuator .colon := by
    rcases hmem' with rfl | rfl
    · simp
    · exact hne .colon (by decide) (by decide)
  have harguments : Takes n (readArguments false) (m' :: ms') (c.parameters.map callArgument)
      (m :: ms) := by
    rw [← hm']
    exact (items_given c.parameters hn).takes_optionalMany hparameters
      (hne .parenL (by decide) (by decide)) hms
  have hdirectives := takes_readDirectives (n := n) false (hne .atSign (by decide) (by decide)) ms
  have hhead : c.selectionLexemes ++ l :: ls = .name c.name :: m' :: ms' := by
    rw [selectionLexemes, List.cons_append, List.append_assoc, hm, hm']
  rw [hhead, readSelectionWithin]
  refine (takes_isAt .spread _ _).bind_false ?_
  refine (takes_name c.name hms').bind ((takes_skip_absent hcolon ms').bind_false
    ((Takes.pure _ _).bind (harguments.bind (hdirectives.bind ?_))))
  rw [← hm]
  exact (items_leaves c.selected).takes_optional hselected (hlne .braceL (by decide)) hs
    (.pure c.selection _)

/-! ## Reading the whole -/

theorem ofKeyword?_keyword (kind : OperationKind) :
    OperationKind.ofKeyword? kind.keyword = some kind := by
  cases kind <;> rfl

/-- What the number of tokens leaves room for. -/
structure Fits (n : Nat) (c : RootCall) : Prop where
  parameters : c.parameters.length < n
  selected : c.selected.length ≤ n
  depth : ∀ p ∈ c.parameters, p.2.depth < n
  levels : 2 ≤ n

theorem takes_selections {c : RootCall} (h : c.Fits n) (hrest : Sound rest) :
    Takes n readSelections
      (.punctuator .braceL :: (c.selectionLexemes ++ .punctuator .braceR :: rest)) [c.selection]
      rest := by
  have hitems : Items n (bounded readSelectionWithin) .braceR (∃ s, · = .name s) selectionLexemes
      selection [c] := by
    refine ⟨by simp, by rintro _ ⟨s, rfl⟩; simp, ?_, ?_⟩
    · intro d _
      exact ⟨_, _, rfl, d.name, rfl⟩
    · intro d hd l ls hl
      obtain rfl := List.mem_singleton.mp hd
      obtain ⟨k, rfl⟩ := Nat.exists_eq_add_of_le' h.levels
      exact takes_bounded (takes_selection d (Nat.le_of_lt h.parameters) h.selected (by omega) hl ls)
  have hmany := hitems.takes_many .braceL (by simp) (by have := h.levels; simp; omega) hrest
  rwa [List.flatMap_singleton] at hmany

theorem takes_readOperationKind (kind : OperationKind) (hrest : Sound rest) :
    Takes n readOperationKind (.name kind.keyword :: rest) kind rest := by
  refine (takes_current _ _).bind ((takes_name _ hrest).bind ?_)
  rw [ofKeyword?_keyword]
  exact .pure kind rest

theorem takes_readOperation {c : RootCall} (h : c.Fits n) (hc : ∀ p ∈ c.parameters, ¬ p.2.Doubled)
    (hrest : Sound rest) :
    Takes n readOperation (c.lexemes ++ rest) c.operation rest := by
  have hbrace : Sound (.punctuator .braceL :: (c.selectionLexemes ++ .punctuator .braceR :: rest)) :=
    sound_punctuator _ _
  have hdeclared : Takes n (optionalMany .parenL readVariableDefinition .parenR) _ _ _ :=
    (items_declared fun p hp => ⟨hc p hp, h.depth p hp⟩).takes_optionalMany
      (Nat.le_of_lt h.parameters) (by simp) hbrace
  obtain ⟨m, ms, hm, hms, -⟩ :=
    enclosed_append .parenL .parenR (c.parameters.flatMap declared) hbrace
  have hlexemes : c.lexemes ++ rest = .name c.kind.keyword :: .name c.name :: m :: ms := by
    simp [lexemes, ← hm]
  rw [hm] at hdeclared
  rw [hlexemes]
  exact (takes_isAt_absent (by simp) _).bind_false
    ((takes_readOperationKind c.kind (sound_name _ _)).bind ((takes_current _ _).bind
      (((takes_name c.name hms).map some).bind (hdeclared.bind
        ((takes_readDirectives false (by simp) _).bind
          ((takes_selections h hrest).bind (.pure _ _)))))))

/-- The declaration of a doubled type is refused, there or where the next one should begin. -/
theorem exists_refuses_itemsFrom {p : String × TypeExpr} (hp : p.2.Doubled) (hk : p.2.depth < n)
    (hs : Sound rest) :
    ∃ w, ∀ k, 0 < k → Refuses n (itemsFrom .parenR readVariableDefinition k) (declared p ++ rest)
      (.expected (.punctuator w) (.punctuator .bang)) := by
  rcases TypeExpr.refuses_or_leaves_bang (n := n) hp hk hs with h | ⟨t, left, h⟩
  · refine ⟨.bracketR, fun k _ => ?_⟩
    have htype : Refuses n readType (p.2.lexemes ++ rest) _ := h
    exact Refuses.bind ((takes_readVariable p.1 (sound_punctuator _ _)).bind_refuses
      ((takes_expect .colon (p.2.sound_lexemes rest)).bind_refuses (htype.bind _))) _
  · refine ⟨.dollar, fun k hk => ?_⟩
    obtain ⟨k, rfl⟩ := Nat.exists_eq_succ_of_ne_zero (Nat.ne_of_gt hk)
    have hitem := takes_declared p (by simp) (by simp) h
    have hnext : Refuses n readVariableDefinition (.punctuator .bang :: left) _ :=
      ((refuses_expect (by simp) left).bind _).bind _
    exact hitem.bind_refuses ((refuses_itemsUntil (by simp) (hnext.bind _)).bind _)

theorem exists_first_doubled {ps : List (String × TypeExpr)} (h : ∃ p ∈ ps, p.2.Doubled) :
    ∃ before p after, ps = before ++ p :: after ∧ p.2.Doubled ∧ ∀ q ∈ before, ¬ q.2.Doubled := by
  induction ps with
  | nil => simp at h
  | cons p ps ih =>
    by_cases hp : p.2.Doubled
    · exact ⟨[], p, ps, rfl, hp, by simp⟩
    · obtain ⟨q, hq, hdoubled⟩ := h
      have hq : q ∈ ps := (List.mem_cons.mp hq).resolve_left fun he => hp (he ▸ hdoubled)
      obtain ⟨before, r, after, rfl, hr, hbefore⟩ := ih ⟨q, hq, hdoubled⟩
      refine ⟨p :: before, r, after, rfl, hr, ?_⟩
      intro s hs
      rcases List.mem_cons.mp hs with rfl | hs
      · exact hp
      · exact hbefore s hs

theorem exists_refuses_readOperation {c : RootCall} (h : c.Fits n)
    (hc : ∃ p ∈ c.parameters, p.2.Doubled) (rest : List Lexeme) :
    ∃ w, Refuses n readOperation (c.lexemes ++ rest)
      (.expected (.punctuator w) (.punctuator .bang)) := by
  -- the parameters before the first doubled one are read
  obtain ⟨before, p, after, hsplit, hp, hbefore⟩ := exists_first_doubled hc
  have hmem : ∀ q ∈ before, q ∈ c.parameters := fun q hq => by
    rw [hsplit]; exact List.mem_append_left _ hq
  have hlength := h.parameters
  have hdepth := h.depth p (by simp [hsplit])
  rw [hsplit, List.length_append] at hlength
  have hitems := items_declared fun q hq => ⟨hbefore q hq, h.depth q (hmem q hq)⟩
  have hafter : Sound (after.flatMap declared ++ .punctuator .parenR ::
      .punctuator .braceL :: (c.selectionLexemes ++ .punctuator .braceR :: rest)) := by
    cases after with
    | nil => exact sound_punctuator _ _
    | cons q after => exact sound_punctuator _ _
  obtain ⟨w, hw⟩ := exists_refuses_itemsFrom hp hdepth hafter
  have hmany := hitems.refuses_optionalMany .parenL (by omega) rfl hw
  have hne : c.parameters.flatMap declared ≠ [] := by simp [hsplit, declared]
  have hlexemes : c.lexemes ++ rest = .name c.kind.keyword :: .name c.name :: .punctuator .parenL ::
      (before.flatMap declared ++ (declared p ++ (after.flatMap declared ++ .punctuator .parenR ::
        .punctuator .braceL :: (c.selectionLexemes ++ .punctuator .braceR :: rest)))) := by
    rw [lexemes, enclosed, if_neg hne, hsplit]
    simp
  rw [hlexemes]
  exact ⟨w, (takes_isAt_absent (by simp) _).bind_refuses
    ((takes_readOperationKind c.kind (sound_name _ _)).bind_refuses
      ((takes_current _ _).bind_refuses
        (((takes_name c.name (sound_punctuator _ _)).map some).bind_refuses (hmany.bind _))))⟩

/-! ## The document -/

/-- A document has room for all of its parts. -/
theorem fits_length (c : RootCall) : c.Fits (c.lexemes ++ [Lexeme.eof]).length := by
  have hlength : (enclosed .parenL .parenR (c.parameters.flatMap declared)).length +
      (enclosed .braceL .braceR (c.selected.flatMap leafLexemes)).length + 5 ≤
        (c.lexemes ++ [Lexeme.eof]).length := by
    simp only [lexemes, selectionLexemes, List.length_append, List.length_cons, List.length_nil]
    omega
  have hparameters := length_le_enclosed .parenL .parenR (c.parameters.flatMap declared)
  have hselected := length_le_enclosed .braceL .braceR (c.selected.flatMap leafLexemes)
  constructor
  · have := length_le_flatMap (g := declared) (fun _ => Nat.zero_lt_succ _) c.parameters
    omega
  · have := length_le_flatMap (g := leafLexemes) (fun _ => Nat.zero_lt_succ _) c.selected
    omega
  · intro p hp
    have hdeclared := mem_length_le (g := declared) hp
    have hdepth := p.2.depth_lt_length
    simp only [declared, List.length_cons] at hdeclared
    omega
  · omega

/-- The keyword of an operation leads to its reader. -/
theorem readDefinition_keyword (kind : OperationKind) (ls : List Lexeme) :
    readDefinition n (unplaced (.name kind.keyword :: ls)) =
      (Definition.operation <$> readOperation) n (unplaced (.name kind.keyword :: ls)) := by
  cases kind <;> rfl

theorem takes_readDefinitions_end (hn : 0 < n) :
    Takes n (bounded readDefinitions) [.eof] [] [.eof] := by
  obtain ⟨n, rfl⟩ := Nat.exists_eq_succ_of_ne_zero (Nat.ne_of_gt hn)
  rfl

theorem takes_readDocument {c : RootCall} (h : c.Fits n)
    (hc : ∀ p ∈ c.parameters, ¬ p.2.Doubled) :
    Takes n readDocument (c.lexemes ++ [.eof]) c.document [.eof] := by
  have hoperation := takes_readOperation h hc (sound_cons (l := .eof) (by simp) [])
  have hdefinition : Takes n readDefinition (c.lexemes ++ [.eof]) (.operation c.operation) [.eof] :=
    (readDefinition_keyword _ _).trans (hoperation.map Definition.operation)
  have hend := takes_readDefinitions_end (Nat.lt_of_lt_of_le (by decide) h.levels)
  exact (takes_checkCurrent (sound_name _ _)).bind (hdefinition.bind (hend.bind (.pure _ _)))

theorem exists_refuses_readDocument {c : RootCall} (h : c.Fits n)
    (hc : ∃ p ∈ c.parameters, p.2.Doubled) (rest : List Lexeme) :
    ∃ w, Refuses n readDocument (c.lexemes ++ rest)
      (.expected (.punctuator w) (.punctuator .bang)) := by
  obtain ⟨w, hw⟩ := exists_refuses_readOperation h hc rest
  have hdefinition : Refuses n readDefinition (c.lexemes ++ rest) _ :=
    (readDefinition_keyword _ _).trans (hw.map Definition.operation)
  exact ⟨w, (takes_checkCurrent (sound_name _ _)).bind_refuses (hdefinition.bind _)⟩

/-- A call without doubled types is read back from its lexemes. -/
theorem ofTokens_lexemes (c : RootCall) (hc : ∀ p ∈ c.parameters, ¬ p.2.Doubled) :
    Document.ofTokens (unplaced (c.lexemes ++ [.eof])) = .ok c.document := by
  have h : readDocument _ (unplaced (c.lexemes ++ [.eof])) = _ := takes_readDocument c.fits_length hc
  rw [ofTokens_unplaced, h]
  rfl

/-- A call with a doubled type is no document. -/
theorem exists_ofTokens_lexemes_error (c : RootCall) (hc : ∃ p ∈ c.parameters, p.2.Doubled) :
    ∃ w, Document.ofTokens (unplaced (c.lexemes ++ [.eof])) =
      .error ⟨.expected (.punctuator w) (.punctuator .bang), none⟩ := by
  obtain ⟨w, hw⟩ := exists_refuses_readDocument c.fits_length hc [.eof]
  have h : readDocument _ (unplaced (c.lexemes ++ [.eof])) = _ := hw
  refine ⟨w, ?_⟩
  rw [ofTokens_unplaced, h]
  rfl

end RootCall

end RequestBook
