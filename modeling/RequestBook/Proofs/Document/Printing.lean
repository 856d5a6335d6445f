import RequestBook.Proofs.Document.RootCall

/-!
# Printed calls

The printed form of a call spells the lexemes of the call, whether its arguments stand on one line
or on lines of their own, so that reading the printed form gives the call's document back.
-/

namespace RequestBook

open Text

/-- A call whose names are all names of the request language. -/
structure RootCall.Named (c : RootCall) : Prop where
  name : isName c.name.toList = true
  parameters : ∀ p ∈ c.parameters, isName p.1.toList = true
  types : ∀ p ∈ c.parameters, isName p.2.leaf.toList = true
  selected : ∀ s ∈ c.selected, isName s.toList = true

theorem ne_empty_of_isName {s : String} (h : isName s.toList = true) : s ≠ "" := by
  rintro rfl
  cases h

theorem spelling_word {s : String} (h : isName s.toList = true) :
    Spelling [.name s] s.toList := by
  have hword : Spelling [.name s] (s.toList ++ []) := .word h rfl .nil
  rwa [List.append_nil] at hword

namespace RootCall

/-! ## Texts of the parts -/

theorem print_variableDefinition (p : String × TypeExpr) :
    (variableDefinition p).print = "$" ++ p.1 ++ ": " ++ p.2.print := by
  have hdefault : printDefault none = "" := rfl
  have hdirectives : wrapped " " (printDirectives []) "" = "" := rfl
  rw [VariableDefinition.print, variableDefinition, hdefault, hdirectives, String.append_empty,
    String.append_empty]

theorem print_callArgument (p : String × TypeExpr) :
    (callArgument p).print = p.1 ++ ": " ++ ("$" ++ p.1) := rfl

theorem printCall_nil (name : String) : printCall none name [] = name := by
  have hbefore : wrapped "" ((none : Option String).getD "") ": " ++ name = name := rfl
  have hline : name ++ wrapped "(" (joined ", " []) ")" = name := String.append_empty
  have hlines : name ++ wrapped "(\n" (indented (joined "\n" [])) "\n)" = name := String.append_empty
  rw [printCall, hbefore, hline, hlines, ite_self]

theorem print_leafSelection {name : String} (h : name ≠ "") : (leafSelection name).print = name := by
  rw [leafSelection, Selection.print, List.map_nil, printCall_nil]
  exact (joined_blank_pieces h "").trans String.append_empty

theorem printAll_eq_map (ss : List Selection) : Selection.printAll ss = ss.map Selection.print := by
  induction ss with
  | nil => rfl
  | cons s ss ih => rw [Selection.printAll, ih, List.map_cons]

theorem spelling_declared {p : String × TypeExpr} (h : isName p.1.toList = true)
    (ht : isName p.2.leaf.toList = true) :
    Spelling (declared p) (variableDefinition p).print.toList := by
  have htype : Spelling p.2.lexemes p.2.print.toList := by
    simpa using p.2.spelling_print ht rfl .nil
  have hname : Spelling (.name p.1 :: .punctuator .colon :: p.2.lexemes)
      (p.1.toList ++ ':' :: ' ' :: p.2.print.toList) := .word h rfl (.mark rfl (.blank rfl htype))
  rw [print_variableDefinition]
  simpa [declared] using Spelling.mark (c := '$') rfl hname

theorem spelling_given {p : String × TypeExpr} (h : isName p.1.toList = true) :
    Spelling (given p) (callArgument p).print.toList := by
  have hname : Spelling (given p) (p.1.toList ++ ':' :: ' ' :: '$' :: p.1.toList) :=
    .word h rfl (.mark rfl (.blank rfl (.mark rfl (spelling_word h))))
  rw [print_callArgument]
  simpa using hname

theorem spelling_call {name : String} (hname : isName name.toList = true)
    {ps : List (String × TypeExpr)} (h : ∀ p ∈ ps, isName p.1.toList = true) :
    Spelling (.name name :: enclosed .parenL .parenR (ps.flatMap given))
      (printCall none name (ps.map fun p => (callArgument p).print)).toList := by
  by_cases hps : ps = []
  · rw [hps, List.map_nil, printCall_nil]
    exact spelling_word hname
  have hgiven : ∀ p ∈ ps, Spelling (given p) (callArgument p).print.toList :=
    fun p hp => spelling_given (h p hp)
  have hne : ps.flatMap given ≠ [] := by
    obtain ⟨p, ps, rfl⟩ := List.exists_cons_of_ne_nil hps
    simp [given]
  have hparts : ∀ s ∈ ps.map fun p => (callArgument p).print, s ≠ "" := by
    intro s hs
    obtain ⟨p, -, rfl⟩ := List.mem_map.mp hs
    simp [print_callArgument]
  have hseparated (sep : String) : separated sep (ps.map fun p => (callArgument p).print) ≠ "" :=
    separated_ne_empty (by simpa using hps) hparts
  have hbefore : wrapped "" ((none : Option String).getD "") ": " ++ name = name := rfl
  rw [printCall, hbefore, joined_eq_separated _ hparts, joined_eq_separated _ hparts]
  split
  · have hlines := spelling_indented
      (spelling_separated "\n" (by simp; rfl) (by simp) hgiven)
    have hindented : indented (separated "\n" (ps.map fun p => (callArgument p).print)) ≠ "" := by
      rw [ne_eq, ← String.toList_eq_nil_iff, indented_of_ne (hseparated _)]
      simp
    have hcall : Spelling (enclosed .parenL .parenR (ps.flatMap given)) ('(' :: _) :=
      spelling_enclosed (c := ')') ['\n'] ['\n'] rfl rfl (by simp; rfl) (by simp; rfl) hne hlines
    rw [wrapped_of_ne hindented]
    simpa using Spelling.word hname rfl hcall
  · have hline := spelling_separated ", " (by simp; decide) (by simp) hgiven
    have hcall : Spelling (enclosed .parenL .parenR (ps.flatMap given)) ('(' :: _) :=
      spelling_enclosed (c := ')') [] [] rfl rfl (by simp) (by simp) hne hline
    rw [wrapped_of_ne (hseparated _)]
    simpa using Spelling.word hname rfl hcall

/-! ## Printed selections and operations -/

variable {c : RootCall}

theorem Named.map_print_leaves (h : c.Named) :
    (c.selected.map leafSelection).map Selection.print = c.selected := by
  rw [List.map_map]
  refine (List.map_congr_left fun s hs => ?_).trans (List.map_id _)
  exact print_leafSelection (ne_empty_of_isName (h.selected s hs))

theorem Named.print_selection (h : c.Named) :
    c.selection.print = printCall none c.name (c.parameters.map fun p => (callArgument p).print) ++
      wrapped " " (block c.selected) "" := by
  have hcall : printCall none c.name (c.parameters.map fun p => (callArgument p).print) ≠ "" :=
    fun he => (spelling_call h.name h.parameters).ne_nil (String.toList_eq_nil_iff.mpr he)
  rw [selection, Selection.print, printAll_eq_map, h.map_print_leaves, List.map_map]
  exact joined_blank_pieces hcall (block c.selected)

theorem Named.spelling_leaves (h : c.Named) :
    Spelling (c.selected.flatMap leafLexemes) (joined "\n" c.selected).toList := by
  have hleaves : ∀ s ∈ c.selected, Spelling (leafLexemes s) (id s).toList :=
    fun s hs => spelling_word (h.selected s hs)
  have hspelling := spelling_separated "\n" (by simp; rfl) (by simp) hleaves
  rwa [List.map_id, ← joined_eq_separated _ fun s hs => ne_empty_of_isName (h.selected s hs)]
    at hspelling

/-- Pieces on lines of their own between braces. -/
theorem spelling_block {parts : List String} {ls : List Lexeme} (hparts : parts ≠ []) (hls : ls ≠ [])
    (h : Spelling ls (joined "\n" parts).toList) :
    Spelling (enclosed .braceL .braceR ls) (block parts).toList := by
  have hblock : Spelling (enclosed .braceL .braceR ls) ('{' :: _) :=
    spelling_enclosed (c := '}') ['\n'] ['\n'] rfl rfl (by simp; rfl) (by simp; rfl) hls
      (spelling_indented h)
  rw [block_of_ne hparts]
  simpa using hblock

theorem Named.spelling_selection (h : c.Named) :
    Spelling c.selectionLexemes c.selection.print.toList := by
  have hcall := spelling_call h.name h.parameters
  rw [h.print_selection, selectionLexemes, ← List.cons_append, String.toList_append]
  by_cases hs : c.selected = []
  · rw [hs]
    exact hcall.append rfl .nil
  · have hne : c.selected.flatMap leafLexemes ≠ [] := by
      obtain ⟨s, ss, hs⟩ := List.exists_cons_of_ne_nil hs
      simp [hs, leafLexemes]
    have hblock := spelling_block hs hne h.spelling_leaves
    have hwrapped : (wrapped " " (block c.selected) "").toList = ' ' :: (block c.selected).toList := by
      rw [wrapped_of_ne (by simp [block_of_ne hs])]
      simp
    rw [hwrapped]
    exact hcall.append rfl (.blank rfl hblock)

/-- The printed parameters of an operation, in brackets if there are any. -/
def declarations (c : RootCall) : String :=
  wrapped "(" (joined ", " (c.parameters.map fun p => (variableDefinition p).print)) ")"

theorem Named.spelling_declarations (h : c.Named) :
    Spelling (enclosed .parenL .parenR (c.parameters.flatMap declared)) c.declarations.toList := by
  have hdeclared : ∀ p ∈ c.parameters, Spelling (declared p) (variableDefinition p).print.toList :=
    fun p hp => spelling_declared (h.parameters p hp) (h.types p hp)
  rw [declarations]
  by_cases hp : c.parameters = []
  · rw [hp]
    exact .nil
  · have hparts : ∀ s ∈ c.parameters.map fun p => (variableDefinition p).print, s ≠ "" := by
      intro s hs
      obtain ⟨p, -, rfl⟩ := List.mem_map.mp hs
      simp [print_variableDefinition]
    have hne : c.parameters.flatMap declared ≠ [] := by
      obtain ⟨p, ps, hp⟩ := List.exists_cons_of_ne_nil hp
      simp [hp, declared]
    have hline : Spelling (enclosed .parenL .parenR (c.parameters.flatMap declared)) ('(' :: _) :=
      spelling_enclosed (c := ')') [] [] rfl rfl (by simp) (by simp) hne
        (spelling_separated ", " (by simp; decide) (by simp) hdeclared)
    rw [joined_eq_separated _ hparts, wrapped_of_ne (separated_ne_empty (by simpa using hp) hparts)]
    simpa using hline

theorem isName_keyword (kind : OperationKind) : isName kind.keyword.toList = true := by
  cases kind <;> decide

theorem Named.print_operation (h : c.Named) :
    c.operation.print =
      c.kind.keyword ++ " " ++ (c.name ++ c.declarations) ++ " " ++ block [c.selection.print] := by
  have hkeyword := ne_empty_of_isName (isName_keyword c.kind)
  have hname : c.name ++ c.declarations ≠ "" := by
    have := ne_empty_of_isName h.name
    simp [this]
  have hdeclared : c.operation.declared.map VariableDefinition.print =
      c.parameters.map fun p => (variableDefinition p).print := by
    rw [operation, List.map_map]
    rfl
  have hhead : joined " " [c.kind.keyword, c.name ++ c.declarations, printDirectives []] =
      c.kind.keyword ++ " " ++ (c.name ++ c.declarations) := by
    rw [show printDirectives [] = "" from rfl]
    simp [joined, separated, hkeyword, hname]
  -- a name stands behind the keyword, so the short form without one does not arise
  have hlong : c.kind.keyword ++ " " ++ (c.name ++ c.declarations) ≠ "query" := by
    intro he
    have hblank : ' ' ∈ (c.kind.keyword ++ " " ++ (c.name ++ c.declarations)).toList := by simp
    rw [he] at hblank
    exact absurd hblank (by decide)
  have hprint : c.operation.print =
      (if joined " " [c.kind.keyword, c.name ++ c.declarations, printDirectives []] = "query" then ""
        else joined " " [c.kind.keyword, c.name ++ c.declarations, printDirectives []] ++ " ") ++
          block [c.selection.print] := by
    rw [Operation.print, hdeclared]
    rfl
  rw [hprint, hhead, if_neg hlong]

theorem endsToken_declarations (c : RootCall) (cs : List Char) :
    endsToken (c.declarations.toList ++ ' ' :: cs) = true := by
  rw [declarations, wrapped]
  split
  · rfl
  · simp only [String.toList_append, List.append_assoc]
    rfl

theorem Named.spelling_operation (h : c.Named) :
    Spelling c.lexemes c.operation.print.toList := by
  have hne : c.selectionLexemes ≠ [] := by simp [selectionLexemes]
  have hjoined : Spelling c.selectionLexemes (joined "\n" [c.selection.print]).toList := by
    rw [joined_singleton]
    exact h.spelling_selection
  have hblock := spelling_block (by simp) hne hjoined
  rw [enclosed, if_neg hne] at hblock
  have hdeclared : Spelling _ (c.declarations.toList ++ ' ' :: (block [c.selection.print]).toList) :=
    h.spelling_declarations.append rfl (.blank rfl hblock)
  have hname : Spelling _ (c.name.toList ++ (c.declarations.toList ++ ' ' :: _)) :=
    .word h.name (c.endsToken_declarations _) hdeclared
  rw [h.print_operation]
  simpa [lexemes] using Spelling.word (isName_keyword c.kind) rfl (.blank (c := ' ') rfl hname)

theorem print_document (c : RootCall) : c.document.print = c.operation.print :=
  joined_singleton _ _

/-- The printed form of a call means the call. -/
theorem Named.parse_print (h : c.Named) (hc : ∀ p ∈ c.parameters, ¬ p.2.Doubled) :
    Document.parse c.document.print = .ok c.document := by
  have hspelling : Spelling c.lexemes c.document.print.toList := by
    rw [print_document]
    exact h.spelling_operation
  rw [Document.parse_of_spelling hspelling, ofTokens_lexemes c hc]

end RootCall

end RequestBook
