import RequestBook.Proofs.Document.Parsed
import RequestBook.Proofs.Token.Stopping

/-!
# Well-formed documents are read from their lexemes

Every reader of the request language takes a well-formed tree from the lexemes of that tree, in
front of all that does not go on with it.
-/

namespace RequestBook

open TokenReader

variable {n k : Nat} {constant : Bool} {l : Lexeme} {ps : List Punctuator} {ls rest : List Lexeme}

/-! ## Values and directives -/

theorem StringLiteral.lexeme_free (s : StringLiteral) (ps : List Punctuator) : s.lexeme.Free ps := by
  rw [lexeme]
  split
  · exact ⟨by simp, by simp⟩
  · exact ⟨by simp, by simp⟩

theorem Value.itemLexemes_eq (vs : List Value) :
    Value.itemLexemes vs = vs.flatMap Value.lexemes := by
  induction vs with
  | nil => rfl
  | cons v vs ih => rw [Value.itemLexemes, ih, List.flatMap_cons]

def namedLexemes (m : String × Value) : List Lexeme :=
  .name m.1 :: .punctuator .colon :: m.2.lexemes

theorem Value.memberLexemes_eq (ms : List (String × Value)) :
    Value.memberLexemes ms = ms.flatMap namedLexemes := by
  induction ms with
  | nil => rfl
  | cons m ms ih => rw [Value.memberLexemes, ih, List.flatMap_cons]; rfl

/-- The punctuators that a value begins with. -/
def valueOpenings : List Punctuator := [.dollar, .bracketL, .braceL]

theorem Value.stops_lexemes (v : Value) (h : ∀ p ∈ valueOpenings, p ∉ ps) :
    Stops ps v.lexemes := by
  simp only [valueOpenings, List.forall_mem_cons] at h
  cases v with
  | «variable» s => exact stops_punctuator h.1 _
  | int s => exact ⟨_, _, rfl, by simp, by simp⟩
  | float s => exact ⟨_, _, rfl, by simp, by simp⟩
  | string s => exact ⟨_, _, rfl, s.lexeme_free ps⟩
  | boolean b => exact stops_name ps _ _
  | null => exact stops_name ps _ _
  | enum s => exact stops_name ps _ _
  | list vs => exact stops_punctuator h.2.1 _
  | object ms => exact stops_punctuator h.2.2.1 _

/-- A value begins with something that is no fault. -/
theorem Value.stops_nil (v : Value) : Stops [] v.lexemes :=
  v.stops_lexemes fun _ _ => List.not_mem_nil

theorem takes_readMember {value : TokenReader Value} (m : String × Value)
    (h : Takes n value (m.2.lexemes ++ rest) m.2 rest) :
    Takes n (readMember value) (namedLexemes m ++ rest) m rest := by
  have hvalue : Sound (m.2.lexemes ++ rest) :=
    (m.2.stops_nil.append rest).sound
  exact (takes_name m.1 (sound_punctuator _ _)).bind
    ((takes_expect .colon hvalue).bind (h.bind (.pure m rest)))

theorem takes_readVariable (s : String) (h : Sound rest) :
    Takes n readVariable (.punctuator .dollar :: .name s :: rest) s rest :=
  (takes_expect _ (sound_name s rest)).bind (takes_name s h)

/-- A value of one lexeme, by what is read in view of it. -/
theorem takes_word (word : String) (h : Sound rest) :
    Takes n (readValueWithin constant (k + 1)) (.name word :: rest) (.ofWord word) rest := by
  rw [readValueWithin]
  exact (takes_current _ _).bind ((takes_advance _ h).bind (.pure _ rest))

theorem Value.length_lexemes_pos (v : Value) : 0 < v.lexemes.length := by
  obtain ⟨l, more, hl, -⟩ := v.stops_nil
  rw [hl]
  exact Nat.zero_lt_succ _

theorem takes_readValueWithin {v : Value} (h : v.WellFormed constant) (hk : v.lexemes.length ≤ k)
    (hn : v.lexemes.length ≤ n) (hrest : Sound rest) :
    Takes n (readValueWithin constant k) (v.lexemes ++ rest) v rest := by
  induction h generalizing k rest with
  | @list vs h ih =>
    simp only [Value.lexemes, Value.itemLexemes_eq, List.length_cons, List.length_append] at hk hn
    obtain ⟨k, rfl⟩ := Nat.exists_eq_succ_of_ne_zero (Nat.ne_of_gt (Nat.zero_lt_of_lt hk))
    have hitem : ∀ v ∈ vs, ∀ rest, Stops [] rest →
        Takes n (readValueWithin constant k) (v.lexemes ++ rest) v rest := by
      intro v hv rest hrest
      have hlength := mem_length_le (g := Value.lexemes) hv
      exact ih v hv (by omega) (by omega) hrest.sound
    have hstart : ∀ v ∈ vs, Stops [.bracketR] v.lexemes := fun v _ => v.stops_lexemes (by decide)
    have hitems := takes_any [] (by simp) hstart hitem .bracketL (by omega) hrest
    rw [readValueWithin, Value.lexemes, Value.itemLexemes_eq, List.cons_append, List.append_assoc]
    exact (takes_current _ _).bind (hitems.bind (.pure _ rest))
  | @object ms hnames h ih =>
    simp only [Value.lexemes, Value.memberLexemes_eq, List.length_cons, List.length_append] at hk hn
    obtain ⟨k, rfl⟩ := Nat.exists_eq_succ_of_ne_zero (Nat.ne_of_gt (Nat.zero_lt_of_lt hk))
    have hmember : ∀ m ∈ ms, ∀ rest, Stops [] rest →
        Takes n (readMember (readValueWithin constant k)) (namedLexemes m ++ rest) m rest := by
      intro m hm rest hrest
      have hlength := mem_length_le (g := namedLexemes) hm
      simp only [namedLexemes, List.length_cons] at hlength
      exact takes_readMember m (ih m hm (by omega) (by omega) hrest.sound)
    have hstart : ∀ m ∈ ms, Stops [.braceR] (namedLexemes m) := fun m _ => stops_name _ m.1 _
    have hmembers := takes_any [] (by simp) hstart hmember .braceL (by omega) hrest
    rw [readValueWithin, Value.lexemes, Value.memberLexemes_eq, List.cons_append, List.append_assoc]
    exact (takes_current _ _).bind (hmembers.bind (.pure _ rest))
  | @«variable» s hconstant hname =>
    obtain ⟨k, rfl⟩ := Nat.exists_eq_succ_of_ne_zero (Nat.ne_of_gt (Nat.zero_lt_of_lt hk))
    rw [readValueWithin]
    refine (takes_current _ _).bind ?_
    dsimp only
    rw [hconstant]
    exact (takes_readVariable _ hrest).bind (.pure _ rest)
  | int h =>
    obtain ⟨k, rfl⟩ := Nat.exists_eq_succ_of_ne_zero (Nat.ne_of_gt hk)
    rw [readValueWithin]
    exact (takes_current _ _).bind ((takes_advance _ hrest).bind (.pure _ rest))
  | float h =>
    obtain ⟨k, rfl⟩ := Nat.exists_eq_succ_of_ne_zero (Nat.ne_of_gt hk)
    rw [readValueWithin]
    exact (takes_current _ _).bind ((takes_advance _ hrest).bind (.pure _ rest))
  | @string s h =>
    obtain ⟨k, rfl⟩ := Nat.exists_eq_succ_of_ne_zero (Nat.ne_of_gt hk)
    obtain ⟨text, block⟩ := s
    rw [readValueWithin]
    cases block with
    | false => exact (takes_current _ _).bind ((takes_advance _ hrest).bind (.pure _ rest))
    | true => exact (takes_current _ _).bind ((takes_advance _ hrest).bind (.pure _ rest))
  | boolean b =>
    obtain ⟨k, rfl⟩ := Nat.exists_eq_succ_of_ne_zero (Nat.ne_of_gt hk)
    cases b with
    | false => exact takes_word _ hrest
    | true => exact takes_word _ hrest
  | null =>
    obtain ⟨k, rfl⟩ := Nat.exists_eq_succ_of_ne_zero (Nat.ne_of_gt hk)
    exact takes_word _ hrest
  | @enum s hname hword =>
    obtain ⟨k, rfl⟩ := Nat.exists_eq_succ_of_ne_zero (Nat.ne_of_gt hk)
    have h : Takes n (readValueWithin constant (k + 1)) (.name s :: rest) (.ofWord s) rest :=
      takes_word s hrest
    rwa [hword] at h

theorem takes_readValue {v : Value} (h : v.WellFormed constant) (hn : v.lexemes.length ≤ n)
    (hrest : Sound rest) : Takes n (readValue constant) (v.lexemes ++ rest) v rest :=
  takes_bounded (takes_readValueWithin h hn hn hrest)

theorem takes_readArgument {a : ValueArgument} (h : a.WellFormed constant)
    (hn : a.lexemes.length ≤ n) (hrest : Sound rest) :
    Takes n (readArgument constant) (a.lexemes ++ rest) a rest := by
  simp only [ValueArgument.lexemes, List.length_cons] at hn
  obtain ⟨name, value, site⟩ := a
  obtain rfl : site = none := h.site
  obtain ⟨l, more, hl, hfree⟩ := value.stops_nil
  have hvalue := takes_readValue (n := n) h.value (by omega) hrest
  rw [ValueArgument.lexemes, List.cons_append, List.cons_append]
  rw [hl, List.cons_append] at hvalue ⊢
  exact (takes_name name (sound_punctuator _ _)).bind
    ((takes_expect .colon (sound_cons hfree.sound _)).bind
      ((takes_current _ _).bind (hvalue.bind (.pure _ rest))))

theorem takes_readArguments {xs : List ValueArgument} (h : ∀ a ∈ xs, a.WellFormed constant)
    (hn : (xs.flatMap ValueArgument.lexemes).length ≤ n) (hrest : Stops [.parenL] rest) :
    Takes n (readArguments constant)
      (enclosed .parenL .parenR (xs.flatMap ValueArgument.lexemes) ++ rest) xs rest := by
  refine takes_optionalMany [] (by simp) (fun a _ => stops_name _ _ _) ?_ hn hrest.sound
    fun _ => hrest
  intro a ha rest hrest
  exact takes_readArgument (h a ha) (Nat.le_trans (mem_length_le ha) hn) hrest.sound

theorem takes_readDirective {d : Directive} (h : d.WellFormed constant) (hn : d.lexemes.length ≤ n)
    (hrest : Stops [.parenL] rest) :
    Takes n (readDirective constant) (d.lexemes ++ rest) d rest := by
  obtain ⟨name, arguments, site⟩ := d
  obtain rfl : site = none := h.site
  have hlength := length_le_enclosed .parenL .parenR (arguments.flatMap ValueArgument.lexemes)
  simp only [Directive.lexemes, List.length_cons] at hn
  have harguments := takes_readArguments (n := n) h.arguments (by dsimp only; omega) hrest
  have hsound := ((stopsIfAny_enclosed (by decide : Punctuator.parenL ∉ []) .parenR
    (arguments.flatMap ValueArgument.lexemes)).append (hrest.mono (by simp))).sound
  exact (takes_current _ _).bind ((takes_expect .atSign (sound_name _ _)).bind
    ((takes_name name hsound).bind (harguments.bind (.pure _ rest))))

theorem takes_readDirectives {ds : List Directive} (h : ∀ d ∈ ds, d.WellFormed constant)
    (hn : (ds.flatMap Directive.lexemes).length ≤ n) (hrest : Stops [.atSign, .parenL] rest) :
    Takes n (readDirectives constant) (ds.flatMap Directive.lexemes ++ rest) ds rest := by
  have hlength := length_le_flatMap (g := Directive.lexemes) (fun d => Nat.zero_lt_succ _) ds
  refine takes_bounded (takes_itemsWhile [.parenL] (by simp) (by decide)
    List.mem_cons_self (fun d _ => ⟨_, rfl⟩) ?_ (by omega) hrest)
  intro d hd rest hrest
  exact takes_readDirective (h d hd) (Nat.le_trans (mem_length_le hd) hn) hrest

theorem stopsIfAny_directives (h : .atSign ∉ ps) (ds : List Directive) :
    StopsIfAny ps (ds.flatMap Directive.lexemes) :=
  stopsIfAny_flatMap fun _ _ => stops_punctuator h _

/-! ## Types and defaults -/

theorem takes_readType {t : TypeExpr} (h : t.WellFormed) (hn : t.lexemes.length ≤ n)
    (hrest : Stops [.bang] rest) : Takes n readType (t.lexemes ++ rest) t rest := by
  obtain ⟨l, more, rfl, hfree⟩ := hrest
  exact takes_bounded (TypeExpr.takes_lexemes h.2 (Nat.lt_of_lt_of_le t.depth_lt_length hn)
    (sound_cons hfree.sound more) (.inl (hfree.ne .bang List.mem_cons_self)))

theorem takes_readDefault {v : Option Value} (h : ∀ x ∈ v, x.WellFormed true)
    (hn : (defaultLexemes v).length ≤ n) (hrest : Stops [.equals] rest) :
    Takes n readDefault (defaultLexemes v ++ rest) v rest := by
  cases v with
  | none => exact (hrest.takes_skip List.mem_cons_self).bind_false (.pure none rest)
  | some x =>
    simp only [defaultLexemes, List.length_cons] at hn
    have hvalue := takes_readValue (n := n) (h x rfl) (by omega) hrest.sound
    have hsound : Sound (x.lexemes ++ rest) :=
      (x.stops_nil.append rest).sound
    exact (takes_skip .equals hsound).bind_true (hvalue.bind (.pure _ rest))

theorem stopsIfAny_default (h : .equals ∉ ps) (v : Option Value) :
    StopsIfAny ps (defaultLexemes v) := by
  cases v with
  | none => exact .inl rfl
  | some x => exact .inr (stops_punctuator h _)

/-- A type, a default and directives are taken one after the other. -/
theorem takes_declaration {t : TypeExpr} {v : Option Value} {ds : List Directive}
    (ht : t.WellFormed) (hv : ∀ x ∈ v, x.WellFormed true) (hds : ∀ d ∈ ds, d.WellFormed true)
    (hn : (t.lexemes ++ (defaultLexemes v ++ ds.flatMap Directive.lexemes)).length ≤ n)
    (hrest : Stops [.bang, .equals, .atSign, .parenL] rest) :
    Takes n readType (t.lexemes ++ (defaultLexemes v ++ (ds.flatMap Directive.lexemes ++ rest))) t
      (defaultLexemes v ++ (ds.flatMap Directive.lexemes ++ rest)) ∧
    Takes n readDefault (defaultLexemes v ++ (ds.flatMap Directive.lexemes ++ rest)) v
      (ds.flatMap Directive.lexemes ++ rest) ∧
    Takes n (readDirectives true) (ds.flatMap Directive.lexemes ++ rest) ds rest := by
  simp only [List.length_append] at hn
  have hdirectives : Stops [.bang, .equals] (ds.flatMap Directive.lexemes ++ rest) :=
    (stopsIfAny_directives (by decide) ds).append (hrest.mono (by simp))
  have hdefault : Stops [.bang] (defaultLexemes v ++ (ds.flatMap Directive.lexemes ++ rest)) :=
    (stopsIfAny_default (by decide) v).append (hdirectives.mono (by simp))
  exact ⟨takes_readType ht (by omega) hdefault,
    takes_readDefault hv (by omega) (hdirectives.mono (by simp)),
    takes_readDirectives hds (by omega) (hrest.mono (by simp))⟩

/-! ## Operations and fragments -/

theorem takes_readVariableDefinition {v : VariableDefinition} (h : v.WellFormed)
    (hn : v.lexemes.length ≤ n) (hrest : Stops [.bang, .equals, .atSign, .parenL] rest) :
    Takes n readVariableDefinition (v.lexemes ++ rest) v rest := by
  simp only [VariableDefinition.lexemes, List.length_cons] at hn
  obtain ⟨htype, hdefault, hdirectives⟩ :=
    takes_declaration (n := n) h.type h.defaultValue h.directives (by omega) hrest
  simp only [VariableDefinition.lexemes, List.cons_append, List.append_assoc]
  exact (takes_readVariable v.name (sound_punctuator _ _)).bind
    ((takes_expect .colon (v.type.sound_lexemes _)).bind
      (htype.bind (hdefault.bind (hdirectives.bind (.pure _ rest)))))

theorem Selection.allLexemes_eq (ss : List Selection) :
    Selection.allLexemes ss = ss.flatMap Selection.lexemes := by
  induction ss with
  | nil => rfl
  | cons s ss ih => rw [Selection.allLexemes, ih, List.flatMap_cons]

theorem Selection.stops_lexemes (s : Selection) (h : .spread ∉ ps) : Stops ps s.lexemes := by
  cases s with
  | field label name arguments directives selections =>
    rw [Selection.lexemes]
    cases label with
    | none => exact stops_name _ _ _
    | some label => exact stops_name _ _ _
  | spread name directives => exact stops_punctuator h _
  | inline typeName directives selections => exact stops_punctuator h _

/-- A punctuator is in view, so no name is. -/
def Marked (ls : List Lexeme) : Prop := ∃ p more, ls = .punctuator p :: more

theorem marked_enclosed_append (opening close : Punctuator) (ls : List Lexeme) (h : Marked rest) :
    Marked (enclosed opening close ls ++ rest) := by
  rw [enclosed]
  split
  · exact h
  · exact ⟨_, _, rfl⟩

theorem marked_directives_append (ds : List Directive) (h : Marked rest) :
    Marked (ds.flatMap Directive.lexemes ++ rest) := by
  cases ds with
  | nil => exact h
  | cons d ds => exact ⟨_, _, rfl⟩

/-- What goes on with a selection that may end here. -/
def selectionStops : List Punctuator := [.colon, .parenL, .atSign, .braceL]

section Selections

variable {selections : TokenReader (List Selection)} {ss : List Selection}
  {arguments : List ValueArgument} {ds : List Directive}

theorem selectionLexemes_ne_nil (h : ss ≠ []) : ss.flatMap Selection.lexemes ≠ [] :=
  flatMap_ne_nil_of_stops h fun s _ => s.stops_lexemes List.not_mem_nil

theorem marked_selections (h : ss ≠ []) (rest : List Lexeme) :
    Marked (enclosed .braceL .braceR (ss.flatMap Selection.lexemes) ++ rest) := by
  rw [enclosed, if_neg (selectionLexemes_ne_nil h)]
  exact ⟨_, _, rfl⟩

theorem stops_selections (h : ss ≠ []) (hps : .braceL ∉ ps) :
    Stops ps (enclosed .braceL .braceR (ss.flatMap Selection.lexemes) ++ rest) := by
  rw [enclosed, if_neg (selectionLexemes_ne_nil h)]
  exact stops_punctuator hps _

theorem takes_closeField (label : Option String) (name : String)
    (hselections : ss ≠ [] → Takes n selections
      (enclosed .braceL .braceR (ss.flatMap Selection.lexemes) ++ rest) ss rest)
    (harguments : ∀ a ∈ arguments, a.WellFormed false) (hds : ∀ d ∈ ds, d.WellFormed false)
    (hn : (enclosed .parenL .parenR (arguments.flatMap ValueArgument.lexemes) ++
      ds.flatMap Directive.lexemes).length ≤ n)
    (hrest : Stops selectionStops rest) :
    Takes n (closeField selections label name)
      (enclosed .parenL .parenR (arguments.flatMap ValueArgument.lexemes) ++
        (ds.flatMap Directive.lexemes ++
          (enclosed .braceL .braceR (ss.flatMap Selection.lexemes) ++ rest)))
      (.field label name arguments ds ss) rest := by
  have hlength := length_le_enclosed .parenL .parenR (arguments.flatMap ValueArgument.lexemes)
  rw [List.length_append] at hn
  have hinner : Stops [.atSign, .parenL]
      (enclosed .braceL .braceR (ss.flatMap Selection.lexemes) ++ rest) :=
    (stopsIfAny_enclosed (by decide) _ _).append (hrest.mono (by simp [selectionStops]))
  have hdirectives : Stops [.parenL] (ds.flatMap Directive.lexemes ++
      (enclosed .braceL .braceR (ss.flatMap Selection.lexemes) ++ rest)) :=
    (stopsIfAny_directives (by decide) ds).append (hinner.mono (by simp))
  refine (takes_readArguments harguments (by omega) hdirectives).bind ?_
  refine (takes_readDirectives hds (by omega) hinner).bind ?_
  by_cases hss : ss = []
  · rw [hss]
    exact (hrest.takes_isAt (by simp [selectionStops])).bind_false
      ((Takes.pure _ rest).bind (.pure _ rest))
  · have hall := hselections hss
    rw [enclosed, if_neg (selectionLexemes_ne_nil hss), List.cons_append] at hall ⊢
    exact (takes_isAt_self .braceL _).bind_true (hall.bind (.pure _ rest))

theorem takes_readSpread_name {name : String} (hon : name ≠ "on")
    (hds : ∀ d ∈ ds, d.WellFormed false) (hn : (ds.flatMap Directive.lexemes).length ≤ n)
    (hrest : Stops [.atSign, .parenL] rest) :
    Takes n (readSpread selections)
      (.punctuator .spread :: .name name :: (ds.flatMap Directive.lexemes ++ rest))
      (.spread name ds) rest := by
  have hsound : Sound (ds.flatMap Directive.lexemes ++ rest) :=
    ((stopsIfAny_directives List.not_mem_nil ds).append (hrest.mono (by simp))).sound
  refine (takes_expect .spread (sound_name _ _)).bind ?_
  refine (takes_skipKeyword_absent (by simpa using hon) _).bind_false ?_
  refine (takes_current _ _).bind ?_
  have hname : Takes n readFragmentName (.name name :: (ds.flatMap Directive.lexemes ++ rest)) name
      (ds.flatMap Directive.lexemes ++ rest) := by
    refine (takes_current _ _).bind ?_
    rw [if_neg (by simpa [Lexeme.text?] using hon)]
    exact takes_name name hsound
  exact hname.bind ((takes_readDirectives hds hn hrest).bind (.pure _ rest))

theorem takes_readSpread_inline {typeName : Option String} (hne : ss ≠ [])
    (hselections : Takes n selections
      (enclosed .braceL .braceR (ss.flatMap Selection.lexemes) ++ rest) ss rest)
    (hds : ∀ d ∈ ds, d.WellFormed false) (hn : (ds.flatMap Directive.lexemes).length ≤ n) :
    Takes n (readSpread selections)
      (.punctuator .spread :: (conditionLexemes typeName ++
        (ds.flatMap Directive.lexemes ++
          (enclosed .braceL .braceR (ss.flatMap Selection.lexemes) ++ rest))))
      (.inline typeName ds ss) rest := by
  have hinner : Stops [.atSign, .parenL]
      (enclosed .braceL .braceR (ss.flatMap Selection.lexemes) ++ rest) :=
    stops_selections hne (by decide)
  have hdirectives := takes_readDirectives (n := n) hds hn hinner
  cases typeName with
  | some s =>
    have hsound := ((stopsIfAny_directives List.not_mem_nil ds).append (hinner.mono (by simp))).sound
    refine (takes_expect .spread (sound_name _ _)).bind ?_
    refine (takes_skipKeyword "on" (sound_name _ _)).bind_true ?_
    exact (takes_name s hsound).bind (hdirectives.bind (hselections.bind (.pure _ rest)))
  | none =>
    -- without a type the next lexeme is no name
    obtain ⟨p, more, hp⟩ := marked_directives_append ds (marked_selections hne rest)
    have hspread : Takes n (readSpread selections) (.punctuator .spread :: .punctuator p :: more)
        (.inline none ds ss) rest := by
      rw [hp] at hdirectives
      refine (takes_expect .spread (sound_punctuator _ _)).bind ?_
      refine (takes_skipKeyword_absent (by simp) _).bind_false ((takes_current _ _).bind ?_)
      exact hdirectives.bind (hselections.bind (.pure _ rest))
    rwa [← hp] at hspread

end Selections

theorem takes_readSelectionWithin {s : Selection} (h : s.WellFormed) (hk : s.lexemes.length ≤ k)
    (hn : s.lexemes.length ≤ n) (hrest : Stops selectionStops rest) :
    Takes n (readSelectionWithin k) (s.lexemes ++ rest) s rest := by
  have hmany {ss : List Selection} {k : Nat} (hne : ss ≠ [])
      (hlength : (ss.flatMap Selection.lexemes).length ≤ n)
      (ih : ∀ s ∈ ss, ∀ rest, Stops selectionStops rest →
        Takes n (readSelectionWithin k) (s.lexemes ++ rest) s rest) :
      ∀ rest, Sound rest → Takes n (many .braceL (readSelectionWithin k) .braceR)
        (enclosed .braceL .braceR (ss.flatMap Selection.lexemes) ++ rest) ss rest :=
    fun rest hrest => takes_many selectionStops (by decide) (fun s _ => s.stops_lexemes (by decide))
      ih .braceL hne hlength hrest
  induction h generalizing k rest with
  | @field label name arguments ds ss hlabel hname harguments hds hss ih =>
    have hinner := length_le_enclosed .braceL .braceR (ss.flatMap Selection.lexemes)
    simp only [Selection.lexemes, Selection.allLexemes_eq, List.length_cons, List.length_append]
      at hk hn
    obtain ⟨k, rfl⟩ := Nat.exists_eq_succ_of_ne_zero (Nat.ne_of_gt (Nat.zero_lt_of_lt hk))
    have hselections (hne : ss ≠ []) := hmany (k := k) hne (by omega) (fun s hs rest hrest => by
      have hlength := mem_length_le (g := Selection.lexemes) hs
      exact ih s hs (by omega) (by omega) hrest) rest hrest.sound
    have hclose (label : Option String) := takes_closeField (n := n) label name
      hselections harguments hds (by rw [List.length_append]; omega) hrest
    have hstops : Stops [.colon] (enclosed .parenL .parenR (arguments.flatMap ValueArgument.lexemes) ++
        (ds.flatMap Directive.lexemes ++
          (enclosed .braceL .braceR (ss.flatMap Selection.lexemes) ++ rest))) :=
      (stopsIfAny_enclosed (by decide) _ _).append ((stopsIfAny_directives (by decide) ds).append
        ((stopsIfAny_enclosed (by decide) _ _).append (hrest.mono (by simp [selectionStops]))))
    simp only [Selection.lexemes, Selection.allLexemes_eq, List.append_assoc, List.cons_append]
    rw [readSelectionWithin]
    cases label with
    | none =>
      refine (takes_isAt_absent (by simp) _).bind_false ?_
      rw [readField_eq]
      exact (takes_name name hstops.sound).bind
        ((hstops.takes_skip List.mem_cons_self).bind_false (hclose none))
    | some label =>
      refine (takes_isAt_absent (by simp) _).bind_false ?_
      rw [readField_eq]
      exact (takes_name label (sound_punctuator _ _)).bind
        ((takes_skip .colon (sound_name _ _)).bind_true
          ((takes_name name hstops.sound).bind (hclose (some label))))
  | @spread name ds hname hon hds =>
    simp only [Selection.lexemes, List.length_cons] at hk hn
    obtain ⟨k, rfl⟩ := Nat.exists_eq_succ_of_ne_zero (Nat.ne_of_gt (Nat.zero_lt_of_lt hk))
    rw [readSelectionWithin]
    exact (takes_isAt_self .spread _).bind_true
      (takes_readSpread_name hon hds (by omega) (hrest.mono (by simp [selectionStops])))
  | @inline typeName ds ss htype hds hne hss ih =>
    have hinner := length_le_enclosed .braceL .braceR (ss.flatMap Selection.lexemes)
    simp only [Selection.lexemes, Selection.allLexemes_eq, List.length_cons, List.length_append]
      at hk hn
    obtain ⟨k, rfl⟩ := Nat.exists_eq_succ_of_ne_zero (Nat.ne_of_gt (Nat.zero_lt_of_lt hk))
    have hselections := hmany (k := k) hne (by omega) (fun s hs rest hrest => by
      have hlength := mem_length_le (g := Selection.lexemes) hs
      exact ih s hs (by omega) (by omega) hrest) rest hrest.sound
    simp only [Selection.lexemes, Selection.allLexemes_eq, List.append_assoc, List.cons_append]
    rw [readSelectionWithin]
    exact (takes_isAt_self .spread _).bind_true
      (takes_readSpread_inline hne hselections hds (by omega))

/-- The selections of an operation or a fragment. -/
theorem takes_readSelections {ss : List Selection} (hne : ss ≠ []) (h : ∀ s ∈ ss, s.WellFormed)
    (hn : (ss.flatMap Selection.lexemes).length ≤ n) (hrest : Sound rest) :
    Takes n readSelections (enclosed .braceL .braceR (ss.flatMap Selection.lexemes) ++ rest) ss
      rest := by
  refine takes_many selectionStops (by decide) (fun s _ => s.stops_lexemes (by decide)) ?_
    .braceL hne hn hrest
  intro s hs rest hrest
  have hlength := Nat.le_trans (mem_length_le (g := Selection.lexemes) hs) hn
  exact takes_bounded (takes_readSelectionWithin (h s hs) hlength hlength hrest)

theorem takes_readOperationKind (kind : OperationKind) (hrest : Sound rest) :
    Takes n readOperationKind (.name kind.keyword :: rest) kind rest := by
  refine (takes_current _ _).bind ((takes_name _ hrest).bind ?_)
  have hkind : OperationKind.ofKeyword? kind.keyword = some kind := by cases kind <;> rfl
  rw [hkind]
  exact .pure kind rest

theorem takes_closeOperation {o : Operation} (h : o.WellFormed)
    (hn : o.headLexemes.length + (o.selections.flatMap Selection.lexemes).length ≤ n)
    (hrest : Sound rest) :
    Takes n (closeOperation o.kind o.name)
      (enclosed .parenL .parenR (o.declared.flatMap VariableDefinition.lexemes) ++
        (o.directives.flatMap Directive.lexemes ++
          (enclosed .braceL .braceR (o.selections.flatMap Selection.lexemes) ++ rest)))
      o rest := by
  have hlength := length_le_enclosed .parenL .parenR (o.declared.flatMap VariableDefinition.lexemes)
  simp only [Operation.headLexemes, List.length_cons, List.length_append] at hn
  have hinner : Stops [.atSign, .parenL]
      (enclosed .braceL .braceR (o.selections.flatMap Selection.lexemes) ++ rest) :=
    stops_selections h.selections_ne_nil (by decide)
  have hdirectives : Stops [.parenL] (o.directives.flatMap Directive.lexemes ++
      (enclosed .braceL .braceR (o.selections.flatMap Selection.lexemes) ++ rest)) :=
    (stopsIfAny_directives (by decide) _).append (hinner.mono (by simp))
  have hitem : ∀ v ∈ o.declared, ∀ rest, Stops [.bang, .equals, .atSign, .parenL] rest →
      Takes n readVariableDefinition (v.lexemes ++ rest) v rest := fun v hv rest hrest =>
    takes_readVariableDefinition (h.declared v hv) (Nat.le_trans (mem_length_le hv) (by omega)) hrest
  have hstart : ∀ v ∈ o.declared, Stops [.parenR, .bang, .equals, .atSign, .parenL] v.lexemes :=
    fun v _ => stops_punctuator (by decide) _
  have hdeclared := takes_optionalMany _ (by decide) hstart hitem (by omega) hdirectives.sound
    fun _ => hdirectives
  exact hdeclared.bind ((takes_readDirectives h.directives (by omega) hinner).bind
    ((takes_readSelections h.selections_ne_nil h.selections (by omega) hrest).bind (.pure _ rest)))

theorem takes_readOperation {o : Operation} (h : o.WellFormed) (hn : o.lexemes.length ≤ n)
    (hrest : Sound rest) : Takes n readOperation (o.lexemes ++ rest) o rest := by
  have hlength := length_le_enclosed .braceL .braceR (o.selections.flatMap Selection.lexemes)
  rw [Operation.lexemes, List.length_append] at hn
  rw [Operation.lexemes, List.append_assoc]
  by_cases hbare : o.isBare = true
  · have hall := takes_readSelections (n := n) h.selections_ne_nil h.selections (by omega) hrest
    rw [if_pos hbare, List.nil_append]
    obtain ⟨kind, name, declared, directives, selections⟩ := o
    simp only [Operation.isBare, Bool.and_eq_true, decide_eq_true_eq, Option.isNone_iff_eq_none,
      List.isEmpty_iff] at hbare
    obtain ⟨⟨⟨rfl, rfl⟩, rfl⟩, rfl⟩ := hbare
    rw [enclosed, if_neg (selectionLexemes_ne_nil h.selections_ne_nil)] at hall ⊢
    exact (takes_isAt_self .braceL _).bind_true (hall.bind (.pure _ rest))
  · rw [if_neg hbare] at hn ⊢
    have hclose := takes_closeOperation (n := n) h (by omega) hrest
    simp only [Operation.headLexemes, List.cons_append, List.append_assoc]
    cases hname : o.name with
    | none =>
      obtain ⟨p, more, hp⟩ := marked_enclosed_append .parenL .parenR
        (o.declared.flatMap VariableDefinition.lexemes) (marked_directives_append o.directives
          (marked_selections h.selections_ne_nil rest))
      rw [hname, hp] at hclose
      rw [Option.toList_none, List.map_nil, List.nil_append, hp]
      exact (takes_isAt_absent (by simp) _).bind_false
        ((takes_readOperationKind o.kind (sound_punctuator _ _)).bind
          ((takes_current _ _).bind ((Takes.pure none _).bind hclose)))
    | some s =>
      have hsound : Sound (enclosed .parenL .parenR (o.declared.flatMap VariableDefinition.lexemes) ++
          (o.directives.flatMap Directive.lexemes ++
            (enclosed .braceL .braceR (o.selections.flatMap Selection.lexemes) ++ rest))) :=
        ((stopsIfAny_enclosed List.not_mem_nil _ _).append
          ((stopsIfAny_directives (by simp) _).append
            (stops_selections h.selections_ne_nil (by simp)))).sound
      rw [hname] at hclose
      exact (takes_isAt_absent (by simp) _).bind_false
        ((takes_readOperationKind o.kind (sound_name _ _)).bind
          ((takes_current _ _).bind (((takes_name s hsound).map some).bind hclose)))

theorem takes_readFragmentName {name : String} (hon : name ≠ "on") (hrest : Sound rest) :
    Takes n readFragmentName (.name name :: rest) name rest := by
  refine (takes_current _ _).bind ?_
  rw [if_neg (by simpa [Lexeme.text?] using hon)]
  exact takes_name name hrest

theorem takes_readFragment {f : Fragment} (h : f.WellFormed) (hn : f.lexemes.length ≤ n)
    (hrest : Sound rest) : Takes n readFragment (f.lexemes ++ rest) f rest := by
  have hlength := length_le_enclosed .braceL .braceR (f.selections.flatMap Selection.lexemes)
  simp only [Fragment.lexemes, List.length_cons, List.length_append] at hn
  have hinner : Stops [.atSign, .parenL]
      (enclosed .braceL .braceR (f.selections.flatMap Selection.lexemes) ++ rest) :=
    stops_selections h.selections_ne_nil (by decide)
  have hdirectives : Sound (f.directives.flatMap Directive.lexemes ++
      (enclosed .braceL .braceR (f.selections.flatMap Selection.lexemes) ++ rest)) :=
    ((stopsIfAny_directives List.not_mem_nil _).append (hinner.mono (by simp))).sound
  simp only [Fragment.lexemes, List.cons_append, List.append_assoc]
  refine (takes_expectKeyword "fragment" (sound_name _ _)).bind ?_
  refine (takes_readFragmentName h.name_ne (sound_name _ _)).bind ?_
  refine (takes_expectKeyword "on" (sound_name _ _)).bind ((takes_name _ hdirectives).bind ?_)
  exact (takes_readDirectives h.directives (by omega) hinner).bind
    ((takes_readSelections h.selections_ne_nil h.selections (by omega) hrest).bind (.pure _ rest))

end RequestBook
