import RequestBook.Proofs.Request.Selection

/-!
# The text that a request is composed of

The standard template puts a text together from declarations, call arguments and a selection. In
however many lines the arguments stand, that text spells the lexemes of the call, so reading it
gives what reading those lexemes gives.
-/

namespace RequestBook

open Text RootCall

/-! ## Arguments -/

/-- The texts of the arguments of a field, where their names are texts. -/
def Field.argumentTexts (f : Field) : ArgumentTexts :=
  .ofFormatted (f.arguments.map fun a => (a, a.formatted))

/-- The text of the variables of such a field. -/
def Field.values (f : Field) : String := "\x7b\n" ++ f.argumentTexts.entries ++ "\n\x7d"

theorem Argument.format_of_isString {a : Argument} (h : a.name.IsString) :
    a.format = .ok a.formatted := if_pos h.isKey

theorem argumentTexts_of_isString {f : Field} (h : ∀ a ∈ f.arguments, a.name.IsString) :
    Formatter.plain.argumentTexts f = .ok f.argumentTexts := by
  have hformat : ∀ a ∈ f.arguments,
      (a.format >>= fun g => pure (a, g)) = .ok (a, a.formatted) := by
    intro a ha
    rw [Argument.format_of_isString (h a ha)]
    rfl
  change (f.arguments.mapM (fun a => a.format >>= fun g => pure (a, g)) >>= _) = _
  rw [mapM_ok_map hformat]
  rfl

theorem Field.Named.argumentTexts {f : Field} (h : f.Named) :
    Formatter.plain.argumentTexts f = .ok f.argumentTexts :=
  argumentTexts_of_isString h.strings

/-- The declarations are the printed ones, each behind what starts its line or place. -/
theorem declarations_argumentTexts (f : Field) : ∃ before after,
    before.toList.all Reading.isIgnored = true ∧ after.toList.all Reading.isIgnored = true ∧
    f.argumentTexts.declarations =
      separated "," (f.arguments.map fun a => before ++ (variableDefinition a.parameter).print) ++
        after := by
  have hprint (a : Argument) (before : String) :
      before ++ "$" ++ a.name.plain ++ ": " ++ a.formatted.type.plain =
        before ++ (variableDefinition a.parameter).print := by
    rw [print_variableDefinition, Argument.parameter, TypeRef.print_expr, Argument.formatted,
      TypeRef.plain_signatureValue]
    simp only [String.append_assoc]
  refine ⟨if f.arguments.length > inlineArgumentLimit then "\n\t" else " ",
    if f.arguments.length > inlineArgumentLimit then "\n" else "", ?_, ?_, ?_⟩
  · split <;> decide
  · split <;> decide
  · simp only [← hprint, Field.argumentTexts, ArgumentTexts.ofFormatted, List.length_map,
      List.map_map]
    rfl

theorem call_argumentTexts (f : Field) : ∃ before after,
    before.toList.all Reading.isIgnored = true ∧ after.toList.all Reading.isIgnored = true ∧
    f.argumentTexts.call =
      separated ", " (f.arguments.map fun a => before ++ (callArgument a.parameter).print) ++
        after := by
  have hprint (a : Argument) (before : String) :
      before ++ a.name.plain ++ ": $" ++ a.name.plain =
        before ++ (callArgument a.parameter).print := by
    rw [print_callArgument, Argument.parameter, ← String.toList_inj]
    simp
  refine ⟨if f.arguments.length > inlineArgumentLimit then "\n\t\t" else " ",
    if f.arguments.length > inlineArgumentLimit then "\n\t" else "", ?_, ?_, ?_⟩
  · split <;> decide
  · split <;> decide
  · simp only [← hprint, Field.argumentTexts, ArgumentTexts.ofFormatted, List.length_map,
      List.map_map]
    rfl

theorem endsToken_blanks {cs : List Char} (h : ∀ c ∈ cs, Reading.isIgnored c = true) :
    endsToken cs = true := by
  cases cs with
  | nil => rfl
  | cons c cs => exact endsToken_of_isIgnored (h c List.mem_cons_self) cs

/-- Pieces that each stand behind something ignored, with something ignored between and behind. -/
theorem spelling_pieces {γ : Type} {text : γ → String} {written : γ → List Lexeme}
    {sep before after : String} (hsep : sep.toList.all Reading.isIgnored = true) (hne : sep ≠ "")
    (hbefore : before.toList.all Reading.isIgnored = true)
    (hafter : after.toList.all Reading.isIgnored = true) {xs : List γ}
    (h : ∀ x ∈ xs, Spelling (written x) (text x).toList) :
    Spelling (xs.flatMap written) (separated sep (xs.map fun x => before ++ text x) ++ after).toList := by
  rw [List.all_eq_true] at hsep hbefore hafter
  have hpieces : ∀ x ∈ xs, Spelling (written x) (before ++ text x).toList := by
    intro x hx
    rw [String.toList_append]
    exact .blanks hbefore (h x hx)
  have hend : Spelling [] (after.toList ++ []) := .blanks hafter .nil
  rw [List.append_nil] at hend
  have hall := (spelling_separated sep hsep hne hpieces).append (endsToken_blanks hafter) hend
  rwa [List.append_nil, ← String.toList_append] at hall

variable {f : Field} {t : SchemaType}

theorem Field.Named.spelling_declarations (h : f.Named) :
    Spelling ((f.arguments.map Argument.parameter).flatMap declared)
      f.argumentTexts.declarations.toList := by
  obtain ⟨before, after, hbefore, hafter, htext⟩ := declarations_argumentTexts f
  rw [htext, List.flatMap_map]
  refine spelling_pieces (by decide) (by decide) hbefore hafter fun a ha => ?_
  exact spelling_declared (h.arguments a ha).plain (by
    rw [Argument.parameter, TypeRef.leaf_expr]
    exact (h.types a ha).plain)

theorem Field.Named.spelling_call (h : f.Named) :
    Spelling ((f.arguments.map Argument.parameter).flatMap given) f.argumentTexts.call.toList := by
  obtain ⟨before, after, hbefore, hafter, htext⟩ := call_argumentTexts f
  rw [htext, List.flatMap_map]
  exact spelling_pieces (by decide) (by decide) hbefore hafter fun a ha =>
    spelling_given (h.arguments a ha).plain

/-! ## The template -/

/-- What the standard template makes of arguments: nothing if there are none. -/
def TemplateInput.bracketed (i : TemplateInput) (text : String) : String :=
  if i.hasArguments then "(" ++ text ++ ")" else ""

theorem render_standard (i : TemplateInput) :
    Template.standard.render i =
      i.operation ++ " " ++ i.name.plain ++ i.bracketed i.declarations ++ "\x7b\n\t" ++
        i.name.plain ++ i.bracketed i.call ++ wrapped "\x7b\n" i.selection "\t\x7d" ++ "\n\x7d" := by
  have hoperation : i.written (.variable "operation_type") = i.operation := rfl
  have hname : i.written (.variable "name") = i.name.plain := rfl
  have hdeclarations : i.written (.variable "declarations") = i.declarations := rfl
  have hcall : i.written (.variable "call_arguments") = i.call := rfl
  have hselection : i.written (.variable "selection") = i.selection := rfl
  have harguments : i.holds (.variable "has_arguments") = i.hasArguments := rfl
  have hselected : i.holds (.variable "selection") = (i.selection != "") := rfl
  have hblock : (if (i.selection != "") = true then "\x7b\n" ++ (i.selection ++ "\t\x7d") else "") =
      wrapped "\x7b\n" i.selection "\t\x7d" := by
    by_cases h : i.selection = ""
    · rw [h]
      rfl
    · rw [wrapped_of_ne h, if_pos (bne_iff_ne.mpr h), String.append_assoc]
  simp only [Template.render, Template.standard, TemplateNode.renderAll, TemplateNode.render,
    hoperation, hname, hdeclarations, hcall, hselection, harguments, hselected,
    TemplateInput.bracketed, String.append_empty, String.append_assoc, hblock]

theorem spelling_bracketed {i : TemplateInput} {text : String} {ls : List Lexeme}
    (hi : i.hasArguments = true ↔ ls ≠ []) (h : Spelling ls text.toList) :
    Spelling (enclosed .parenL .parenR ls) (i.bracketed text).toList := by
  by_cases hls : ls = []
  · rw [TemplateInput.bracketed, if_neg (by simpa [hls] using hi), enclosed, if_pos hls]
    exact .nil
  · have hbrackets : Spelling (enclosed .parenL .parenR ls) ('(' :: _) :=
      spelling_enclosed (c := ')') [] [] rfl rfl (by simp) (by simp) hls h
    rw [TemplateInput.bracketed, if_pos (hi.mpr hls)]
    simpa using hbrackets

theorem endsToken_bracketed (i : TemplateInput) (text : String) {cs : List Char}
    (h : endsToken cs = true) : endsToken ((i.bracketed text).toList ++ cs) = true := by
  rw [TemplateInput.bracketed]
  split
  · simp only [String.toList_append, List.append_assoc]
    rfl
  · exact h

theorem spelling_selected {text : String} {ls : List Lexeme} (hi : text = "" ↔ ls = [])
    (h : Spelling ls text.toList) :
    Spelling (enclosed .braceL .braceR ls) (wrapped "\x7b\n" text "\t\x7d").toList := by
  by_cases hls : ls = []
  · rw [hi.mpr hls, enclosed, if_pos hls]
    exact .nil
  · have hbraces : Spelling (enclosed .braceL .braceR ls) ('{' :: _) :=
      spelling_enclosed (c := '}') ['\n'] ['\t'] rfl rfl (by simp; rfl) (by simp; rfl) hls h
    rw [wrapped_of_ne (mt hi.mp hls)]
    simpa using hbraces

theorem endsToken_selected (text : String) (cs : List Char) :
    endsToken ((wrapped "\x7b\n" text "\t\x7d").toList ++ '\n' :: cs) = true := by
  rw [wrapped]
  split
  · rfl
  · simp only [String.toList_append, List.append_assoc]
    rfl

/-- What the template is given for a root field with names throughout. -/
def Field.templateInput (f : Field) (operation selection : String) : TemplateInput :=
  ⟨operation, f.name, !f.arguments.isEmpty, f.argumentTexts.declarations, f.argumentTexts.call,
    selection⟩

/-- The composed text spells the call of the field. -/
theorem Field.Named.spelling_source (hf : f.Named) (kind : OperationKind) {selection : String}
    (hempty : selection = "" ↔ t.selected = [])
    (hselection : Spelling (t.selected.flatMap leafLexemes) selection.toList) :
    Spelling (f.call kind t).lexemes
      (Template.standard.render (f.templateInput kind.keyword selection)).toList := by
  have harguments (written : String × TypeExpr → List Lexeme) (hw : ∀ p, written p ≠ []) :
      (f.templateInput kind.keyword selection).hasArguments = true ↔
        (f.arguments.map Argument.parameter).flatMap written ≠ [] := by
    cases hf : f.arguments with
    | nil => simp [Field.templateInput, hf]
    | cons a as => simp [Field.templateInput, hf, hw]
  have hnone : selection = "" ↔ t.selected.flatMap leafLexemes = [] :=
    hempty.trans (by cases t.selected <;> simp [leafLexemes])
  have hclose : Spelling [.punctuator .braceR] ['\n', '}'] := .blank rfl (.mark rfl .nil)
  have hselected : Spelling _ ((wrapped "\x7b\n" selection "\t\x7d").toList ++ ['\n', '}']) :=
    (spelling_selected hnone hselection).append rfl hclose
  have hends := endsToken_selected selection ['}']
  have hcall := (spelling_bracketed (harguments given (by simp [given])) hf.spelling_call).append
    hends hselected
  have hroot := Spelling.word hf.name.plain (endsToken_bracketed _ _ hends) hcall
  have hbody : Spelling _ ('{' :: '\n' :: '\t' :: _) :=
    .mark rfl (.blank rfl (.blank rfl hroot))
  have hdeclarations := (spelling_bracketed (harguments declared (by simp [declared]))
    hf.spelling_declarations).append rfl hbody
  have hname := Spelling.word hf.name.plain (endsToken_bracketed _ _ rfl) hdeclarations
  have hkeyword := Spelling.word (isName_keyword kind) rfl (.blank (c := ' ') rfl hname)
  rw [render_standard]
  simpa [lexemes, selectionLexemes, Field.call, Field.templateInput] using hkeyword

end RequestBook
