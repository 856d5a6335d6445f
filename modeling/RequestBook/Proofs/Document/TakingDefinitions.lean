import RequestBook.Proofs.Document.Taking

/-!
# Well-formed definitions are read from their lexemes

The definitions and extensions of a schema, and whole documents. A definition that ends without its
block is taken in front of everything but a block, so a document is read back unless such a
definition stands directly before a query of selections only.
-/

namespace RequestBook

open TokenReader

variable {n k : Nat} {l : Lexeme} {ps : List Punctuator} {ls rest : List Lexeme}

/-! ## Fields, arguments and values of types -/

theorem takes_readDescription (description : Option StringLiteral) (s : String) (ls : List Lexeme) :
    Takes n readDescription (descriptionLexemes description ++ .name s :: ls) description
      (.name s :: ls) := by
  cases description with
  | none => exact (takes_current _ _).bind (.pure none _)
  | some d =>
    obtain ⟨text, block⟩ := d
    cases block with
    | false => exact (takes_current _ _).bind ((takes_advance _ (sound_name s ls)).bind (.pure _ _))
    | true => exact (takes_current _ _).bind ((takes_advance _ (sound_name s ls)).bind (.pure _ _))

/-- What begins with a description or a name goes on with nothing. -/
theorem stops_described (ps : List Punctuator) (description : Option StringLiteral) (s : String)
    (ls : List Lexeme) : Stops ps (descriptionLexemes description ++ .name s :: ls) := by
  cases description with
  | none => exact stops_name ps s ls
  | some d => exact ⟨_, _, rfl, d.lexeme_free ps⟩

/-- What goes on with an input that is defined. -/
def inputStops : List Punctuator := [.bang, .equals, .atSign, .parenL]

theorem takes_readInputDefinition {d : InputDefinition} (h : d.WellFormed)
    (hn : d.lexemes.length ≤ n) (hrest : Stops inputStops rest) :
    Takes n readInputDefinition (d.lexemes ++ rest) d rest := by
  simp only [InputDefinition.lexemes, List.length_cons, List.length_append] at hn
  obtain ⟨htype, hdefault, hdirectives⟩ := takes_declaration (n := n) h.type h.defaultValue
    h.directives (by simp only [List.length_append]; omega) hrest
  simp only [InputDefinition.lexemes, List.cons_append, List.append_assoc]
  refine (takes_readDescription d.description _ _).bind ?_
  exact (takes_name d.name (sound_punctuator _ _)).bind
    ((takes_expect .colon (d.type.sound_lexemes _)).bind
      (htype.bind (hdefault.bind (hdirectives.bind (.pure _ rest)))))

theorem InputDefinition.stops_lexemes (d : InputDefinition) (ps : List Punctuator) :
    Stops ps d.lexemes := stops_described ps d.description d.name _

/-- Inputs between two punctuators, or none. -/
theorem takes_inputs {ds : List InputDefinition} (opening close : Punctuator)
    (hclose : close ∉ inputStops) (h : ∀ d ∈ ds, d.WellFormed)
    (hn : (ds.flatMap InputDefinition.lexemes).length ≤ n) (hrest : Sound rest)
    (hstop : ds = [] → Stops [opening] rest) :
    Takes n (optionalMany opening readInputDefinition close)
      (enclosed opening close (ds.flatMap InputDefinition.lexemes) ++ rest) ds rest := by
  refine takes_optionalMany inputStops hclose (fun d _ => d.stops_lexemes _) ?_ hn hrest hstop
  exact fun d hd rest hrest =>
    takes_readInputDefinition (h d hd) (Nat.le_trans (mem_length_le hd) hn) hrest

theorem takes_readFieldDefinition {d : FieldDefinition} (h : d.WellFormed)
    (hn : d.lexemes.length ≤ n) (hrest : Stops [.bang, .atSign, .parenL] rest) :
    Takes n readFieldDefinition (d.lexemes ++ rest) d rest := by
  have hlength := length_le_enclosed .parenL .parenR (d.arguments.flatMap InputDefinition.lexemes)
  simp only [FieldDefinition.lexemes, List.length_cons, List.length_append] at hn
  simp only [FieldDefinition.lexemes, List.cons_append, List.append_assoc]
  have hdirectives : Stops [.bang] (d.directives.flatMap Directive.lexemes ++ rest) :=
    (stopsIfAny_directives (by decide) _).append (hrest.mono (by simp))
  have harguments := takes_inputs (n := n) .parenL .parenR (by decide)
    h.arguments (by omega) (sound_punctuator .colon
      (d.type.lexemes ++ (d.directives.flatMap Directive.lexemes ++ rest)))
    fun _ => stops_punctuator (by decide) _
  have hcolon := ((stopsIfAny_enclosed (List.not_mem_nil : Punctuator.parenL ∉ []) .parenR
    (d.arguments.flatMap InputDefinition.lexemes)).append (stops_punctuator (p := .colon) (by simp)
      (d.type.lexemes ++ (d.directives.flatMap Directive.lexemes ++ rest)))).sound
  refine (takes_readDescription d.description _ _).bind ((takes_name d.name hcolon).bind ?_)
  refine harguments.bind ((takes_expect .colon (d.type.sound_lexemes _)).bind ?_)
  exact (takes_readType h.type (by omega) hdirectives).bind
    ((takes_readDirectives h.directives (by omega) (hrest.mono (by simp))).bind (.pure _ rest))

theorem takes_readEnumValueDefinition {d : EnumValueDefinition} (h : d.WellFormed)
    (hn : d.lexemes.length ≤ n) (hrest : Stops [.atSign, .parenL] rest) :
    Takes n readEnumValueDefinition (d.lexemes ++ rest) d rest := by
  simp only [EnumValueDefinition.lexemes, List.length_cons, List.length_append] at hn
  simp only [EnumValueDefinition.lexemes, List.cons_append, List.append_assoc]
  have hsound := ((stopsIfAny_directives List.not_mem_nil d.directives).append
    (hrest.mono (by simp))).sound
  refine (takes_readDescription d.description _ _).bind ((takes_current _ _).bind ?_)
  rw [if_neg (by simpa [Lexeme.text?] using h.name_free)]
  exact (takes_name d.name hsound).bind
    ((takes_readDirectives h.directives (by omega) hrest).bind (.pure _ rest))

/-! ## Bodies of types -/

/-- What may follow a definition: nothing that goes on with one, blocks aside. -/
structure Ends (ls : List Lexeme) : Prop where
  stops : Stops [.parenL, .equals, .atSign, .amp, .pipe] ls
  ne_implements : ls.head? ≠ some (.name "implements")

/-- Behind directives and a block, if there are any, what may follow a definition is in view. -/
theorem Ends.head?_ne (h : Ends rest) (ds : List Directive) (block : List Lexeme) :
    (ds.flatMap Directive.lexemes ++ (enclosed .braceL .braceR block ++ rest)).head? ≠
      some (.name "implements") := by
  cases ds with
  | cons d ds => simp [Directive.lexemes]
  | nil =>
    rw [enclosed]
    split
    · exact h.ne_implements
    · simp

theorem takes_names (sep : Punctuator) {names : List String} (hne : names ≠ [])
    (hn : (delimitedLexemes sep names).length ≤ n) (hrest : Stops [sep] rest) :
    Takes n (delimited sep TokenReader.name) (delimitedLexemes sep names ++ rest) names rest := by
  have hnames := takes_delimited (n := n) id sep (fun s _ rest hrest => takes_name s hrest) hne hrest
    (by rwa [List.map_id])
  rwa [List.map_id] at hnames

theorem takes_readInterfaces {names : List String}
    (hn : (interfaceLexemes names).length ≤ n) (hrest : Stops [.amp] rest)
    (himplements : rest.head? ≠ some (.name "implements")) :
    Takes n readInterfaces (interfaceLexemes names ++ rest) names rest := by
  rw [interfaceLexemes] at hn ⊢
  by_cases hnames : names = []
  · obtain ⟨l, more, rfl, -⟩ := hrest
    rw [if_pos hnames, hnames]
    exact (takes_skipKeyword_absent (by simpa using himplements) more).bind_false (.pure [] _)
  · rw [if_neg hnames, List.length_cons] at hn
    rw [if_neg hnames]
    exact (takes_skipKeyword "implements" (sound_delimitedLexemes _ hnames rest)).bind_true
      (takes_names .amp hnames (Nat.le_of_succ_le hn) hrest)

theorem takes_readMembers {names : List String} (hn : (memberLexemes names).length ≤ n)
    (hrest : Stops [.equals, .pipe] rest) :
    Takes n readMembers (memberLexemes names ++ rest) names rest := by
  rw [memberLexemes] at hn ⊢
  by_cases hnames : names = []
  · rw [if_pos hnames, hnames]
    exact (hrest.takes_skip List.mem_cons_self).bind_false (.pure [] _)
  · rw [if_neg hnames, List.length_cons] at hn
    rw [if_neg hnames]
    exact (takes_skip .equals (sound_delimitedLexemes _ hnames rest)).bind_true
      (takes_names .pipe hnames (Nat.le_of_succ_le hn) (hrest.mono (by simp)))

/-- A body that has no block and would take one that follows. -/
def TypeBody.awaitsBlock : TypeBody → Bool
  | .scalar | .union _ => false
  | .object _ fields | .interface _ fields => fields.isEmpty
  | .enum values => values.isEmpty
  | .input fields => fields.isEmpty

theorem takes_readFields {fields : List FieldDefinition} (h : ∀ f ∈ fields, f.WellFormed)
    (hn : (fields.flatMap FieldDefinition.lexemes).length ≤ n) (hrest : Sound rest)
    (hblock : fields = [] → Stops [.braceL] rest) :
    Takes n readFields
      (enclosed .braceL .braceR (fields.flatMap FieldDefinition.lexemes) ++ rest) fields rest := by
  refine takes_optionalMany [.bang, .atSign, .parenL] (by decide)
    (fun f _ => stops_described _ f.description f.name _) ?_ hn hrest hblock
  exact fun f hf rest hrest =>
    takes_readFieldDefinition (h f hf) (Nat.le_trans (mem_length_le hf) hn) hrest

theorem takes_readEnumValues {values : List EnumValueDefinition} (h : ∀ v ∈ values, v.WellFormed)
    (hn : (values.flatMap EnumValueDefinition.lexemes).length ≤ n) (hrest : Sound rest)
    (hblock : values = [] → Stops [.braceL] rest) :
    Takes n (optionalMany .braceL readEnumValueDefinition .braceR)
      (enclosed .braceL .braceR (values.flatMap EnumValueDefinition.lexemes) ++ rest) values
      rest := by
  refine takes_optionalMany [.atSign, .parenL] (by decide)
    (fun v _ => stops_described _ v.description v.name _) ?_ hn hrest hblock
  exact fun v hv rest hrest =>
    takes_readEnumValueDefinition (h v hv) (Nat.le_trans (mem_length_le hv) hn) hrest

theorem Ends.stops_block (h : Ends rest) (block : List Lexeme) :
    Stops [.atSign, .parenL] (enclosed .braceL .braceR block ++ rest) :=
  (stopsIfAny_enclosed (by decide) _ _).append (h.stops.mono (by simp))

/-- The interfaces, directives and fields of an object or of an interface. -/
theorem takes_readObject {interfaces : List String} {fields : List FieldDefinition}
    {ds : List Directive} (hfields : ∀ f ∈ fields, f.WellFormed)
    (hds : ∀ d ∈ ds, d.WellFormed true)
    (hn : (interfaceLexemes interfaces ++ (ds.flatMap Directive.lexemes ++
      enclosed .braceL .braceR (fields.flatMap FieldDefinition.lexemes))).length ≤ n)
    (hrest : Ends rest) (hblock : fields = [] → Stops [.braceL] rest)
    (build : List String → List FieldDefinition → TypeBody) :
    Takes n (readInterfaces >>= fun interfaces => readDirectives true >>= fun directives =>
        readFields >>= fun fields => Pure.pure (directives, build interfaces fields))
      (interfaceLexemes interfaces ++ (ds.flatMap Directive.lexemes ++
        enclosed .braceL .braceR (fields.flatMap FieldDefinition.lexemes)) ++ rest)
      (ds, build interfaces fields) rest := by
  have hlength := length_le_enclosed .braceL .braceR (fields.flatMap FieldDefinition.lexemes)
  simp only [List.length_append] at hn
  have hall := takes_readFields (n := n) hfields (by omega) hrest.stops.sound hblock
  have hinner := hrest.stops_block (fields.flatMap FieldDefinition.lexemes)
  have hdirectives : Stops [.amp] (ds.flatMap Directive.lexemes ++
      (enclosed .braceL .braceR (fields.flatMap FieldDefinition.lexemes) ++ rest)) :=
    (stopsIfAny_directives (by decide) ds).append
      ((stopsIfAny_enclosed (by decide) _ _).append (hrest.stops.mono (by simp)))
  rw [List.append_assoc, List.append_assoc]
  exact (takes_readInterfaces (by omega) hdirectives (hrest.head?_ne ds _)).bind
    ((takes_readDirectives hds (by omega) hinner).bind (hall.bind (.pure _ rest)))

theorem takes_readTypeBody {b : TypeBody} {ds : List Directive} (h : b.WellFormed)
    (hds : ∀ d ∈ ds, d.WellFormed true)
    (hn : (b.lexemes (ds.flatMap Directive.lexemes)).length ≤ n) (hrest : Ends rest)
    (hblock : b.awaitsBlock = true → Stops [.braceL] rest) :
    Takes n (readTypeBody b.keyword) (b.lexemes (ds.flatMap Directive.lexemes) ++ rest) (ds, b)
      rest := by
  cases b with
  | scalar =>
    exact (takes_readDirectives hds hn (hrest.stops.mono (by simp))).bind (.pure _ rest)
  | object interfaces fields | interface interfaces fields =>
    exact takes_readObject h.2 hds hn hrest (fun he => hblock (by rw [he]; rfl)) _
  | union members =>
    simp only [TypeBody.lexemes, List.length_append] at hn
    rw [TypeBody.lexemes, List.append_assoc]
    have hmembers : Takes n readMembers (memberLexemes members ++ rest) members rest :=
      takes_readMembers (by omega) (hrest.stops.mono (by simp))
    have hstops : Stops [.atSign, .parenL] (memberLexemes members ++ rest) := by
      rw [memberLexemes]
      split
      · exact hrest.stops.mono (by simp)
      · exact stops_punctuator (by decide) _
    exact (takes_readDirectives hds (by omega) hstops).bind (hmembers.bind (.pure _ rest))
  | enum values =>
    have hlength := length_le_enclosed .braceL .braceR (values.flatMap EnumValueDefinition.lexemes)
    simp only [TypeBody.lexemes, List.length_append] at hn
    rw [TypeBody.lexemes, List.append_assoc]
    have hvalues := takes_readEnumValues (n := n) h (by omega) hrest.stops.sound
      fun he => hblock (by rw [he]; rfl)
    exact (takes_readDirectives hds (by omega) (hrest.stops_block _)).bind
      (hvalues.bind (.pure _ rest))
  | input fields =>
    have hlength := length_le_enclosed .braceL .braceR (fields.flatMap InputDefinition.lexemes)
    simp only [TypeBody.lexemes, List.length_append] at hn
    rw [TypeBody.lexemes, List.append_assoc]
    have hfields := takes_inputs (n := n) .braceL .braceR (by decide) h
      (by omega) hrest.stops.sound fun he => hblock (by rw [he]; rfl)
    exact (takes_readDirectives hds (by omega) (hrest.stops_block _)).bind
      (hfields.bind (.pure _ rest))

/-! ## Definitions -/

theorem sound_body (b : TypeBody) (ds : List Directive) (hrest : Ends rest) :
    Sound (b.lexemes (ds.flatMap Directive.lexemes) ++ rest) := by
  have hend : Stops [] rest := hrest.stops.mono (by simp)
  have hdirectives : StopsIfAny [] (ds.flatMap Directive.lexemes) :=
    stopsIfAny_directives (by simp) ds
  have hblock (block : List Lexeme) : Stops [] (ds.flatMap Directive.lexemes ++
      (enclosed .braceL .braceR block ++ rest)) :=
    hdirectives.append ((stopsIfAny_enclosed (by simp) _ _).append hend)
  cases b with
  | scalar => exact (hdirectives.append hend).sound
  | object interfaces fields | interface interfaces fields =>
    rw [TypeBody.lexemes, List.append_assoc, List.append_assoc, interfaceLexemes]
    split
    · exact (hblock _).sound
    · exact sound_name _ _
  | union members =>
    rw [TypeBody.lexemes, List.append_assoc, memberLexemes]
    split
    · exact (hdirectives.append hend).sound
    · exact (hdirectives.append (stops_punctuator (by simp) _)).sound
  | enum values | input fields =>
    rw [TypeBody.lexemes, List.append_assoc]
    exact (hblock _).sound

theorem takes_readTypeDefinition {d : TypeDefinition} (h : d.WellFormed)
    (hextending : d.extending = false) (hn : d.lexemes.length ≤ n) (hrest : Ends rest)
    (hblock : d.body.awaitsBlock = true → Stops [.braceL] rest) :
    Takes n (readTypeDefinition d.body.keyword) (d.lexemes ++ rest) d rest := by
  obtain ⟨extending, description, name, directives, body⟩ := d
  obtain rfl : extending = false := hextending
  simp only [TypeDefinition.lexemes, extendLexemes, List.length_cons, List.length_append] at hn
  simp only [TypeDefinition.lexemes, extendLexemes, List.cons_append, List.append_assoc]
  have hbody := takes_readTypeBody (n := n) h.body h.directives (by dsimp only; omega) hrest hblock
  refine (takes_readDescription description _ _).bind ?_
  refine (takes_expectKeyword body.keyword (sound_name _ _)).bind ?_
  exact (takes_name name (sound_body body directives hrest)).bind (hbody.bind (.pure _ rest))

theorem takes_readTypeExtension {d : TypeDefinition} (h : d.WellFormed)
    (hextending : d.extending = true) (hn : d.lexemes.length ≤ n) (hrest : Ends rest)
    (hblock : d.body.awaitsBlock = true → Stops [.braceL] rest) :
    Takes n (readTypeExtension d.body.keyword) (d.lexemes ++ rest) d rest := by
  obtain ⟨hdescription, hadds⟩ := h.extension hextending
  obtain ⟨extending, description, name, directives, body⟩ := d
  obtain rfl : extending = true := hextending
  obtain rfl : description = none := hdescription
  simp only [TypeDefinition.lexemes, extendLexemes, List.length_cons, List.length_append] at hn
  simp only [TypeDefinition.lexemes, extendLexemes, List.cons_append, List.append_assoc]
  have hbody := takes_readTypeBody (n := n) h.body h.directives (by dsimp only; omega) hrest hblock
  refine (takes_expectKeyword "extend" (sound_name _ _)).bind ?_
  refine (takes_expectKeyword body.keyword (sound_name _ _)).bind ?_
  refine (takes_name name (sound_body body directives hrest)).bind (hbody.bind ?_)
  dsimp only at hadds ⊢
  rw [hadds]
  exact .pure _ rest

theorem takes_readRoot (root : OperationKind × String) (hrest : Sound rest) :
    Takes n readRoot (rootLexemes root ++ rest) root rest :=
  (takes_readOperationKind root.1 (sound_punctuator _ _)).bind
    ((takes_expect .colon (sound_name _ _)).bind ((takes_name root.2 hrest).bind (.pure _ rest)))

theorem takes_readSchemaDefinition {d : SchemaDefinition} (h : d.WellFormed)
    (hextending : d.extending = false) (hn : d.lexemes.length ≤ n) (hrest : Sound rest) :
    Takes n readSchemaDefinition (d.lexemes ++ rest) d rest := by
  have hne := h.definition hextending
  obtain ⟨extending, description, directives, roots⟩ := d
  obtain rfl : extending = false := hextending
  have hlength := length_le_enclosed .braceL .braceR (roots.flatMap rootLexemes)
  simp only [SchemaDefinition.lexemes, extendLexemes, List.length_cons, List.length_append] at hn
  simp only [SchemaDefinition.lexemes, extendLexemes, List.cons_append, List.append_assoc]
  have hstart : ∀ root ∈ roots, Stops [.braceR] (rootLexemes root) := fun _ _ => stops_name _ _ _
  have hroots := takes_many (n := n) [] (by simp) hstart
    (fun root _ rest hrest => takes_readRoot root hrest.sound) .braceL hne (by omega) hrest
  have hinner : Stops [.atSign, .parenL]
      (enclosed .braceL .braceR (roots.flatMap rootLexemes) ++ rest) := by
    rw [enclosed, if_neg (flatMap_ne_nil_of_stops hne hstart)]
    exact stops_punctuator (by decide) _
  have hdirectives := ((stopsIfAny_directives List.not_mem_nil directives).append
    (hinner.mono (by simp))).sound
  refine (takes_readDescription description _ _).bind ?_
  refine (takes_expectKeyword "schema" hdirectives).bind ?_
  exact (takes_readDirectives h.directives (by dsimp only; omega) hinner).bind
    (hroots.bind (.pure _ rest))

theorem takes_readSchemaExtension {d : SchemaDefinition} (h : d.WellFormed)
    (hextending : d.extending = true) (hn : d.lexemes.length ≤ n) (hrest : Ends rest)
    (hblock : d.roots = [] → Stops [.braceL] rest) :
    Takes n readSchemaExtension (d.lexemes ++ rest) d rest := by
  obtain ⟨hdescription, hadds⟩ := h.extension hextending
  obtain ⟨extending, description, directives, roots⟩ := d
  obtain rfl : extending = true := hextending
  obtain rfl : description = none := hdescription
  have hlength := length_le_enclosed .braceL .braceR (roots.flatMap rootLexemes)
  simp only [SchemaDefinition.lexemes, extendLexemes, List.length_cons, List.length_append] at hn
  simp only [SchemaDefinition.lexemes, extendLexemes, List.cons_append, List.append_assoc]
  have hstart : ∀ root ∈ roots, Stops [.braceR] (rootLexemes root) := fun _ _ => stops_name _ _ _
  have hroots := takes_optionalMany (n := n) [] (by simp) hstart
    (fun root _ rest hrest => takes_readRoot root hrest.sound) (by omega) hrest.stops.sound hblock
  have hinner := hrest.stops_block (roots.flatMap rootLexemes)
  have hdirectives := ((stopsIfAny_directives List.not_mem_nil directives).append
    (hinner.mono (by simp))).sound
  refine (takes_expectKeyword "extend" (sound_name _ _)).bind ?_
  refine (takes_expectKeyword "schema" hdirectives).bind ?_
  refine (takes_readDirectives h.directives (by dsimp only; omega) hinner).bind (hroots.bind ?_)
  dsimp only at hadds ⊢
  rw [hadds]
  exact .pure _ rest

theorem takes_readDirectiveLocation (location : DirectiveLocation) (hrest : Sound rest) :
    Takes n readDirectiveLocation (.name location.keyword :: rest) location rest := by
  refine (takes_current _ _).bind ((takes_name _ hrest).bind ?_)
  have hlocation : DirectiveLocation.ofKeyword? location.keyword = some location := by
    cases location <;> rfl
  rw [hlocation]
  exact .pure location rest

/-- The word that makes a directive repeatable, or the word that always stands behind it. -/
theorem takes_repeatable (repeatable : Bool) (ls : List Lexeme) : ∃ s more,
    (if repeatable then [.name "repeatable"] else []) ++ .name "on" :: ls = .name s :: more ∧
      Takes n (skipKeyword? "repeatable") (.name s :: more) repeatable (.name "on" :: ls) := by
  cases repeatable with
  | true => exact ⟨_, _, rfl, takes_skipKeyword "repeatable" (sound_name _ _)⟩
  | false => exact ⟨_, _, rfl, takes_skipKeyword_absent (by simp) _⟩

theorem takes_readDirectiveDefinition {d : DirectiveDefinition} (h : d.WellFormed)
    (hn : d.lexemes.length ≤ n) (hrest : Stops [.pipe] rest) :
    Takes n readDirectiveDefinition (d.lexemes ++ rest) d rest := by
  obtain ⟨description, name, arguments, repeatable, locations⟩ := d
  have hne : locations ≠ [] := h.locations_ne_nil
  have hlength := length_le_enclosed .parenL .parenR (arguments.flatMap InputDefinition.lexemes)
  simp only [DirectiveDefinition.lexemes, List.length_cons, List.length_append] at hn
  simp only [DirectiveDefinition.lexemes, List.cons_append, List.append_assoc]
  have hlocations := takes_delimited (n := n) DirectiveLocation.keyword .pipe
    (fun l _ rest hrest => takes_readDirectiveLocation l hrest) hne hrest (by omega)
  have hwords : Sound (delimitedLexemes .pipe (locations.map DirectiveLocation.keyword) ++ rest) :=
    sound_delimitedLexemes .pipe (by simpa using hne) rest
  obtain ⟨s, ls, hls, hrepeatable⟩ := takes_repeatable (n := n) repeatable
    (delimitedLexemes .pipe (locations.map DirectiveLocation.keyword) ++ rest)
  rw [hls]
  have harguments := takes_inputs (n := n) .parenL .parenR (by decide) h.arguments
    (by dsimp only; omega) (sound_name s ls) fun _ => stops_name _ s ls
  have hbehind := ((stopsIfAny_enclosed (List.not_mem_nil : Punctuator.parenL ∉ []) .parenR
    (arguments.flatMap InputDefinition.lexemes)).append (stops_name [] s ls)).sound
  refine (takes_readDescription description _ _).bind ?_
  refine (takes_expectKeyword "directive" (sound_punctuator _ _)).bind ?_
  refine (takes_expect .atSign (sound_name _ _)).bind ((takes_name name hbehind).bind ?_)
  exact harguments.bind (hrepeatable.bind ((takes_expectKeyword "on" hwords).bind
    (hlocations.bind (.pure _ rest))))

theorem takes_lookahead (l m : Lexeme) (hm : ∀ f, m ≠ .fault f) (ls : List Lexeme) :
    Takes n lookahead (l :: m :: ls) ⟨m, none⟩ (l :: m :: ls) := by
  cases m with
  | fault f => exact absurd rfl (hm f)
  | _ => rfl

/-- The word behind the description, if there is one, says what is defined. -/
theorem takes_readDefinition_of_word (description : Option StringLiteral) {word : String}
    {d : Definition} (h : ∀ first t, Takes n (definitionOf description.isSome first t word)
      (descriptionLexemes description ++ .name word :: ls) d rest) :
    Takes n readDefinition (descriptionLexemes description ++ .name word :: ls) d rest := by
  cases description with
  | none => exact (takes_current _ _).bind (h _ _)
  | some s =>
    have hlook := takes_lookahead (n := n) s.lexeme (.name word) (by simp) ls
    obtain ⟨text, block⟩ := s
    cases block with
    | false => exact (takes_current _ _).bind (hlook.bind (h _ _))
    | true => exact (takes_current _ _).bind (hlook.bind (h _ _))

theorem mem_typeKeywords (b : TypeBody) : b.keyword ∈ typeKeywords := by
  cases b <;> simp [TypeBody.keyword, typeKeywords]

theorem keyword_ne_schema (b : TypeBody) : b.keyword ≠ "schema" := by
  cases b <;> simp [TypeBody.keyword]

/-- The word behind `extend` says what is extended. -/
theorem takes_readExtension_type (b : TypeBody) {d : TypeDefinition}
    (h : Takes n (readTypeExtension b.keyword) (l :: .name b.keyword :: ls) d rest) :
    Takes n readExtension (l :: .name b.keyword :: ls) (.type d) rest := by
  refine (takes_lookahead _ _ (by simp) _).bind ?_
  cases b <;> exact h.bind (.pure _ rest)

theorem takes_definitionOf_extend {d : Definition} (first t : Token)
    (h : Takes n readExtension ls d rest) :
    Takes n (definitionOf false first t "extend") ls d rest := by
  rw [definitionOf, if_neg (by decide), if_neg (by decide), if_neg (by decide),
    if_neg (by decide), if_neg (by decide), if_neg (by decide), if_pos rfl]
  exact h

theorem takes_readDefinition_type {d : TypeDefinition} (h : d.WellFormed)
    (hn : d.lexemes.length ≤ n) (hrest : Ends rest)
    (hblock : d.body.awaitsBlock = true → Stops [.braceL] rest) :
    Takes n readDefinition (d.lexemes ++ rest) (.type d) rest := by
  cases hextending : d.extending with
  | false =>
    have hall := takes_readTypeDefinition h hextending hn hrest hblock
    rw [TypeDefinition.lexemes, hextending, extendLexemes, List.append_assoc] at hall ⊢
    refine takes_readDefinition_of_word d.description fun first t => ?_
    rw [definitionOf, if_neg (keyword_ne_schema d.body), if_pos (mem_typeKeywords d.body)]
    exact hall.bind (.pure _ rest)
  | true =>
    have hall := takes_readTypeExtension h hextending hn hrest hblock
    rw [TypeDefinition.lexemes, hextending, extendLexemes, (h.extension hextending).1] at hall ⊢
    exact takes_readDefinition_of_word none fun first t =>
      takes_definitionOf_extend first t (takes_readExtension_type d.body hall)

theorem takes_readDefinition_schema {d : SchemaDefinition} (h : d.WellFormed)
    (hn : d.lexemes.length ≤ n) (hrest : Ends rest) (hblock : d.roots = [] → Stops [.braceL] rest) :
    Takes n readDefinition (d.lexemes ++ rest) (.schema d) rest := by
  cases hextending : d.extending with
  | false =>
    have hall := takes_readSchemaDefinition h hextending hn hrest.stops.sound
    rw [SchemaDefinition.lexemes, hextending, extendLexemes, List.append_assoc] at hall ⊢
    refine takes_readDefinition_of_word d.description fun first t => ?_
    rw [definitionOf, if_pos rfl]
    exact hall.bind (.pure _ rest)
  | true =>
    have hall := takes_readSchemaExtension h hextending hn hrest hblock
    rw [SchemaDefinition.lexemes, hextending, extendLexemes, (h.extension hextending).1] at hall ⊢
    refine takes_readDefinition_of_word none fun first t => takes_definitionOf_extend first t ?_
    exact (takes_lookahead _ _ (by simp) _).bind (hall.bind (.pure _ rest))

theorem takes_readDefinition_directive {d : DirectiveDefinition} (h : d.WellFormed)
    (hn : d.lexemes.length ≤ n) (hrest : Stops [.pipe] rest) :
    Takes n readDefinition (d.lexemes ++ rest) (.directive d) rest := by
  have hall := takes_readDirectiveDefinition h hn hrest
  rw [DirectiveDefinition.lexemes, List.append_assoc] at hall ⊢
  refine takes_readDefinition_of_word d.description fun first t => ?_
  rw [definitionOf, if_neg (by decide), if_neg (by decide), if_pos rfl]
  exact hall.bind (.pure _ rest)

theorem takes_readDefinition_fragment {f : Fragment} (h : f.WellFormed)
    (hn : f.lexemes.length ≤ n) (hrest : Sound rest) :
    Takes n readDefinition (f.lexemes ++ rest) (.fragment f) rest := by
  have hall := takes_readFragment h hn hrest
  refine takes_readDefinition_of_word none fun first t => ?_
  rw [definitionOf, if_neg (by decide), if_neg (by decide), if_neg (by decide),
    if_neg (by decide), if_neg (by decide), if_pos rfl]
  exact hall.bind (.pure _ rest)

theorem takes_readDefinition_operation {o : Operation} (h : o.WellFormed)
    (hn : o.lexemes.length ≤ n) (hrest : Sound rest) :
    Takes n readDefinition (o.lexemes ++ rest) (.operation o) rest := by
  have hall := takes_readOperation h hn hrest
  rw [Operation.lexemes] at hall ⊢
  by_cases hbare : o.isBare = true
  · rw [if_pos hbare, List.nil_append, enclosed, if_neg (selectionLexemes_ne_nil h.selections_ne_nil)]
      at hall ⊢
    exact (takes_current _ _).bind (hall.bind (.pure _ rest))
  · rw [if_neg hbare] at hall ⊢
    have hkeyword : o.kind.keyword ∈ ["query", "mutation", "subscription"] ∧
        o.kind.keyword ≠ "schema" ∧ o.kind.keyword ∉ typeKeywords ∧ o.kind.keyword ≠ "directive" := by
      cases o.kind <;> decide
    refine takes_readDefinition_of_word none fun first t => ?_
    rw [definitionOf, if_neg hkeyword.2.1, if_neg hkeyword.2.2.1, if_neg hkeyword.2.2.2,
      if_neg (by decide), if_pos hkeyword.1]
    exact hall.bind (.pure _ rest)

/-! ## Documents -/

/-- A definition that has no block and would take one that follows. -/
def Definition.awaitsBlock : Definition → Bool
  | .type d => d.body.awaitsBlock
  | .schema d => d.roots.isEmpty
  | .operation _ | .fragment _ | .directive _ => false

theorem takes_readDefinition {d : Definition} (h : d.WellFormed) (hn : d.lexemes.length ≤ n)
    (hrest : Ends rest) (hblock : d.awaitsBlock = true → Stops [.braceL] rest) :
    Takes n readDefinition (d.lexemes ++ rest) d rest := by
  cases d with
  | operation o => exact takes_readDefinition_operation h hn hrest.stops.sound
  | fragment f => exact takes_readDefinition_fragment h hn hrest.stops.sound
  | type t => exact takes_readDefinition_type h hn hrest hblock
  | schema s =>
    exact takes_readDefinition_schema h hn hrest (by simpa [Definition.awaitsBlock] using hblock)
  | directive d => exact takes_readDefinition_directive h hn (hrest.stops.mono (by simp))

/-- Only a query of selections alone begins with a block. -/
def Definition.isBare : Definition → Bool
  | .operation o => o.isBare
  | .fragment _ | .schema _ | .type _ | .directive _ => false

/-- A query of selections alone does not stand behind what would take its block. -/
def Definition.Apart (a b : Definition) : Prop := a.awaitsBlock = true → b.isBare = false

def Document.Apart (d : Document) : Prop := d.definitions.IsChain Definition.Apart

/-- A definition begins with a string or a keyword, if not with the block of a query. -/
inductive Opening : Lexeme → Prop
  | string (s : StringLiteral) : Opening s.lexeme
  | word {s : String} (h : s ≠ "implements") : Opening (.name s)

namespace Opening

theorem free (h : Opening l) (ps : List Punctuator) : l.Free ps := by
  cases h with
  | string s => exact s.lexeme_free ps
  | word => exact Lexeme.free_name ps _

theorem ne_eof (h : Opening l) : l ≠ .eof := by
  cases h with
  | string s =>
    rw [StringLiteral.lexeme]
    split <;> simp
  | word => simp

theorem ne_implements (h : Opening l) : l ≠ .name "implements" := by
  cases h with
  | string s =>
    rw [StringLiteral.lexeme]
    split <;> simp
  | word h => simpa using h

end Opening

theorem exists_described (description : Option StringLiteral) {s : String} (hs : s ≠ "implements")
    (ls : List Lexeme) :
    ∃ l more, descriptionLexemes description ++ .name s :: ls = l :: more ∧ Opening l := by
  cases description with
  | none => exact ⟨_, _, rfl, .word hs⟩
  | some s => exact ⟨_, _, rfl, .string s⟩

theorem exists_extended (description : Option StringLiteral) (extending : Bool) {s : String}
    (hs : s ≠ "implements") (ls : List Lexeme) :
    ∃ l more, descriptionLexemes description ++ (extendLexemes extending ++ .name s :: ls) =
      l :: more ∧ Opening l := by
  cases extending with
  | false => exact exists_described description hs ls
  | true => exact exists_described description (by decide) _

namespace Definition

theorem exists_lexemes {d : Definition} (h : d.WellFormed) :
    ∃ l more, d.lexemes = l :: more ∧ ((l = .punctuator .braceL ∧ d.isBare = true) ∨ Opening l) := by
  cases d with
  | operation o =>
    rw [lexemes, Operation.lexemes]
    by_cases hbare : o.isBare = true
    · rw [if_pos hbare, enclosed, if_neg (selectionLexemes_ne_nil h.selections_ne_nil)]
      exact ⟨_, _, rfl, .inl ⟨rfl, hbare⟩⟩
    · rw [if_neg hbare]
      exact ⟨_, _, rfl, .inr (.word (by cases o.kind <;> decide))⟩
  | fragment f => exact ⟨_, _, rfl, .inr (.word (by decide))⟩
  | type t =>
    have hkeyword : t.body.keyword ≠ "implements" := by
      cases t.body <;> simp [TypeBody.keyword]
    obtain ⟨l, more, hl, hopen⟩ := exists_extended t.description t.extending hkeyword _
    exact ⟨l, more, hl, .inr hopen⟩
  | schema d =>
    obtain ⟨l, more, hl, hopen⟩ := exists_extended d.description d.extending
      (by decide : "schema" ≠ "implements") _
    exact ⟨l, more, hl, .inr hopen⟩
  | directive d =>
    obtain ⟨l, more, hl, hopen⟩ := exists_described d.description
      (by decide : "directive" ≠ "implements") _
    exact ⟨l, more, hl, .inr hopen⟩

theorem ends_lexemes {d : Definition} (h : d.WellFormed) (rest : List Lexeme) :
    Ends (d.lexemes ++ rest) := by
  obtain ⟨l, more, hl, ⟨rfl, -⟩ | hopen⟩ := d.exists_lexemes h
  · rw [hl]
    exact ⟨stops_punctuator (by decide) _, by simp⟩
  · rw [hl]
    exact ⟨⟨l, _, rfl, hopen.free _⟩, by simpa using hopen.ne_implements⟩

theorem stops_block {d : Definition} (h : d.WellFormed) (hbare : d.isBare = false)
    (rest : List Lexeme) : Stops [.braceL] (d.lexemes ++ rest) := by
  obtain ⟨l, more, hl, ⟨-, htrue⟩ | hopen⟩ := d.exists_lexemes h
  · rw [hbare] at htrue
    cases htrue
  · rw [hl]
    exact ⟨l, _, rfl, hopen.free _⟩

end Definition

theorem stops_eof (ps : List Punctuator) : Stops ps [.eof] := ⟨_, _, rfl, by simp, by simp⟩

section Documents

variable {a : Definition} {ds : List Definition}

/-- What stands behind a definition in a document ends the definition. -/
theorem ends_definitions (h : ∀ d ∈ ds, d.WellFormed) :
    Ends (ds.flatMap Definition.lexemes ++ [.eof]) := by
  cases ds with
  | nil => exact ⟨stops_eof _, by simp⟩
  | cons d ds =>
    rw [List.flatMap_cons, List.append_assoc]
    exact d.ends_lexemes (h d List.mem_cons_self) _

theorem stops_definitions (h : ∀ d ∈ ds, d.WellFormed) (hchain : (a :: ds).IsChain Definition.Apart)
    (hawaits : a.awaitsBlock = true) :
    Stops [.braceL] (ds.flatMap Definition.lexemes ++ [.eof]) := by
  cases ds with
  | nil => exact stops_eof _
  | cons d ds =>
    rw [List.flatMap_cons, List.append_assoc]
    exact d.stops_block (h d List.mem_cons_self) ((List.isChain_cons_cons.mp hchain).1 hawaits) _

/-- One definition of a document, in front of the others. -/
theorem takes_first (h : ∀ d ∈ a :: ds, d.WellFormed) (hchain : (a :: ds).IsChain Definition.Apart)
    (hn : a.lexemes.length ≤ n) :
    Takes n readDefinition ((a :: ds).flatMap Definition.lexemes ++ [.eof]) a
      (ds.flatMap Definition.lexemes ++ [.eof]) := by
  have htail : ∀ d ∈ ds, d.WellFormed := fun d hd => h d (List.mem_cons_of_mem a hd)
  rw [List.flatMap_cons, List.append_assoc]
  exact takes_readDefinition (h a List.mem_cons_self) hn (ends_definitions htail)
    (stops_definitions htail hchain)

theorem takes_readDefinitions (h : ∀ d ∈ ds, d.WellFormed) (hchain : ds.IsChain Definition.Apart)
    (hn : (ds.flatMap Definition.lexemes).length ≤ n) (hk : ds.length < k) :
    Takes n (readDefinitions k) (ds.flatMap Definition.lexemes ++ [.eof]) ds [.eof] := by
  induction ds generalizing k with
  | nil =>
    obtain ⟨k, rfl⟩ := Nat.exists_eq_succ_of_ne_zero (Nat.ne_of_gt hk)
    exact (takes_current _ _).bind (.pure [] _)
  | cons d ds ih =>
    obtain ⟨k, rfl⟩ := Nat.exists_eq_succ_of_ne_zero (Nat.ne_of_gt (Nat.zero_lt_of_lt hk))
    rw [List.flatMap_cons, List.length_append] at hn
    have htail := ih (fun x hx => h x (List.mem_cons_of_mem d hx)) hchain.of_cons (by omega)
      (Nat.lt_of_succ_lt_succ hk)
    have hfirst := takes_first (n := n) h hchain (by omega)
    obtain ⟨l, more, hl, hbegin⟩ := d.exists_lexemes (h d List.mem_cons_self)
    have hne : l ≠ .eof := by
      rcases hbegin with ⟨rfl, -⟩ | hopen
      · simp
      · exact hopen.ne_eof
    rw [List.flatMap_cons, hl] at hfirst ⊢
    refine (takes_current _ _).bind ?_
    rw [if_neg (by simpa using hne)]
    exact hfirst.bind (htail.bind (.pure _ _))

end Documents

theorem length_le_definitions {ds : List Definition} (h : ∀ d ∈ ds, d.WellFormed) :
    ds.length ≤ (ds.flatMap Definition.lexemes).length := by
  have hstops : ∀ d ∈ ds, Stops [] d.lexemes := by
    intro d hd
    obtain ⟨l, more, hl, ⟨rfl, -⟩ | hopen⟩ := d.exists_lexemes (h d hd)
    · exact ⟨_, more, hl, by simp, by simp⟩
    · exact ⟨l, more, hl, hopen.free []⟩
  exact length_le_flatMap_of_stops hstops

theorem takes_readDocument {d : Document} (h : d.WellFormed) (hd : d.Apart)
    (hn : d.lexemes.length ≤ n) :
    Takes n readDocument (d.lexemes ++ [.eof]) d [.eof] := by
  obtain ⟨ds⟩ := d
  obtain ⟨a, ds, rfl⟩ := List.exists_cons_of_ne_nil h.definitions_ne_nil
  have hlength : ds.length + 1 ≤ ((a :: ds).flatMap Definition.lexemes).length :=
    length_le_definitions h.definitions
  have hall : ((a :: ds).flatMap Definition.lexemes).length ≤ n := hn
  have hsound : Sound ((a :: ds).flatMap Definition.lexemes ++ [.eof]) :=
    (ends_definitions h.definitions).stops.sound
  have hfirst := takes_first (n := n) h.definitions hd
    (Nat.le_trans (mem_length_le List.mem_cons_self) hall)
  have hcheck : Takes n checkCurrent ((a :: ds).flatMap Definition.lexemes ++ [.eof]) ()
      ((a :: ds).flatMap Definition.lexemes ++ [.eof]) := by
    obtain ⟨l, more, hl, hfree⟩ := (ends_definitions h.definitions).stops
    rw [hl] at hsound ⊢
    exact takes_checkCurrent hsound
  rw [List.flatMap_cons, List.length_append] at hall hlength
  have hrest : Takes n (bounded readDefinitions) (ds.flatMap Definition.lexemes ++ [.eof]) ds
      [.eof] :=
    takes_bounded (takes_readDefinitions (fun x hx => h.definitions x (List.mem_cons_of_mem a hx))
      (List.IsChain.of_cons hd) (by omega) (by omega))
  exact hcheck.bind (hfirst.bind (hrest.bind (.pure _ _)))

/-- A well-formed document with its definitions apart is what its lexemes mean. -/
theorem Document.ofTokens_lexemes {d : Document} (h : d.WellFormed) (hd : d.Apart) :
    ofTokens (unplaced (d.lexemes ++ [.eof])) = .ok d := by
  have hread : readDocument _ (unplaced (d.lexemes ++ [.eof])) = _ :=
    takes_readDocument (n := (d.lexemes ++ [Lexeme.eof]).length) h hd (by simp)
  rw [ofTokens_unplaced, hread]
  rfl

end RequestBook
