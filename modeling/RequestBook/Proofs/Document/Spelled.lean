import RequestBook.Proofs.Document.TakingDefinitions
import RequestBook.Proofs.Document.WellFormed
import RequestBook.Proofs.Token.Layout

/-!
# Printed documents

The printed form of every well-formed part of a document spells the lexemes of that part. Together
with the readers this makes a document what its printed form means.
-/

namespace RequestBook

open Text

variable {constant : Bool} {ls ms : List Lexeme} {s t : String}

/-! ## Brackets, names and types -/

theorem spells_labeled (hs : isName s.toList = true) (h : Spells ls t) :
    Spells (.name s :: .punctuator .colon :: ls) (s ++ ": " ++ t) := by
  have hcolon : Leads [.punctuator .colon] ": " := fun _ _ h => .mark rfl (.blank rfl h)
  have hends : Detaches ": " := fun _ => rfl
  rw [String.append_assoc]
  exact (Spells.word hs).append (hends.append t) (hcolon.append h (by simp))

section Brackets

variable {α : Type} {written : α → List Lexeme} {text : α → String} {xs : List α}

theorem spells_line (h : ∀ x ∈ xs, Spells (written x) (text x)) :
    Spells (enclosed .parenL .parenR (xs.flatMap written))
      (wrapped "(" (joined ", " (xs.map text)) ")") := by
  have hopen : Leads [.punctuator .parenL] "(" := fun _ _ h => .mark rfl h
  have hclose : Spells [.punctuator .parenR] ")" := .of_ne_nil (by simp) (.mark rfl .nil)
  exact (Spells.joined_map h blank_comma).wrapped hopen hclose rfl

theorem spells_lines (h : ∀ x ∈ xs, Spells (written x) (text x)) :
    Spells (enclosed .parenL .parenR (xs.flatMap written))
      (wrapped "(\n" (indented (joined "\n" (xs.map text))) "\n)") := by
  have hopen : Leads [.punctuator .parenL] "(\n" := fun _ _ h => .mark rfl (.blank rfl h)
  have hclose : Spells [.punctuator .parenR] "\n)" :=
    .of_ne_nil (by simp) (.blank rfl (.mark rfl .nil))
  exact (Spells.joined_map h blank_newline).indented.wrapped hopen hclose rfl

/-- As `Spells.joined_map`, for things that are all there. -/
theorem spells_separated (h : ∀ x ∈ xs, Spells (written x) (text x))
    (hne : ∀ x ∈ xs, written x ≠ []) :
    Spells (xs.flatMap written) (separated ", " (xs.map text)) := by
  have hparts : ∀ s ∈ xs.map text, s ≠ "" := by
    intro s hs
    obtain ⟨x, hx, rfl⟩ := List.mem_map.mp hs
    exact (h x hx).ne_empty (hne x hx)
  rw [← joined_eq_separated ", " hparts]
  exact .joined_map h blank_comma

end Brackets

theorem TypeExpr.WellFormed.spells {t : TypeExpr} (h : t.WellFormed) : Spells t.lexemes t.print := by
  obtain ⟨l, ls, ht, -⟩ := t.exists_lexemes
  refine .of_ne_nil (by simp [ht]) ?_
  simpa using TypeExpr.spelling_print h.1 rfl .nil

/-! ## Values and directives -/

theorem StringLiteral.spells_print {s : StringLiteral} (h : s.lexeme.Printable) :
    Spells [s.lexeme] s.print := by
  obtain ⟨text, block⟩ := s
  cases block with
  | false => exact .literal (written_quoted text)
  | true => exact .literal h

theorem Value.printItems_eq (vs : List Value) : Value.printItems vs = vs.map Value.print := by
  induction vs with
  | nil => rfl
  | cons v vs ih => rw [Value.printItems, ih, List.map_cons]

theorem Value.printMembers_eq (ms : List (String × Value)) :
    Value.printMembers ms = ms.map fun m => m.1 ++ ": " ++ m.2.print := by
  induction ms with
  | nil => rfl
  | cons m ms ih => rw [Value.printMembers, ih, List.map_cons]

theorem Value.lexemes_ne_nil (v : Value) : v.lexemes ≠ [] :=
  List.ne_nil_of_length_pos v.length_lexemes_pos

theorem Value.WellFormed.spells {v : Value} (h : v.WellFormed constant) :
    Spells v.lexemes v.print := by
  induction h with
  | «variable» _ hname =>
    have hdollar : Leads [.punctuator .dollar] "$" := fun _ _ h => .mark rfl h
    exact hdollar.append (.word hname) (by simp)
  | int h => exact .literal h
  | float h => exact .literal h
  | string h => exact StringLiteral.spells_print h
  | boolean b =>
    cases b with
    | false => exact .word (by decide)
    | true => exact .word (by decide)
  | null => exact .word (by decide)
  | enum hname => exact .word hname
  | list _ ih =>
    have hopen : Leads [.punctuator .bracketL] "[" := fun _ _ h => .mark rfl h
    have hclose : Spells [.punctuator .bracketR] "]" := .of_ne_nil (by simp) (.mark rfl .nil)
    have hitems := spells_separated ih fun v _ => v.lexemes_ne_nil
    rw [Value.lexemes, Value.print, Value.itemLexemes_eq, Value.printItems_eq, String.append_assoc]
    exact hopen.append (hitems.append rfl hclose) (by simp)
  | object hnames _ ih =>
    have hopen : Leads [.punctuator .braceL] "\x7b" := fun _ _ h => .mark rfl h
    have hclose : Spells [.punctuator .braceR] "\x7d" := .of_ne_nil (by simp) (.mark rfl .nil)
    have hmembers := spells_separated (fun m hm => spells_labeled (hnames m hm) (ih m hm))
      fun m _ => List.cons_ne_nil _ _
    rw [Value.lexemes, Value.print, Value.memberLexemes_eq, Value.printMembers_eq,
      String.append_assoc]
    exact hopen.append (hmembers.append rfl hclose) (by simp)

theorem ValueArgument.WellFormed.spells {a : ValueArgument} (h : a.WellFormed constant) :
    Spells a.lexemes a.print :=
  spells_labeled h.name h.value.spells

theorem Directive.WellFormed.spells {d : Directive} (h : d.WellFormed constant) :
    Spells d.lexemes d.print := by
  have hat : Leads [.punctuator .atSign] "@" := fun _ _ h => .mark rfl h
  have hopen : Detaches "(" := fun _ => rfl
  rw [Directive.print, String.append_assoc]
  exact hat.append ((Spells.word h.name).append (hopen.wrapped _ _)
    (spells_line fun a ha => (h.arguments a ha).spells)) (by simp)

theorem spells_printDirectives {ds : List Directive} (h : ∀ d ∈ ds, d.WellFormed constant) :
    Spells (ds.flatMap Directive.lexemes) (printDirectives ds) :=
  .joined_map (fun d hd => (h d hd).spells) blank_space

/-- Directives behind something else, if there are any. -/
theorem spells_wrapped_directives {ds : List Directive} (h : ∀ d ∈ ds, d.WellFormed constant) :
    Spells (ds.flatMap Directive.lexemes) (wrapped " " (printDirectives ds) "") :=
  (spells_printDirectives h).wrapped_blank blank_space

theorem detaches_space : Detaches " " := blank_space.detaches

/-! ## Selections -/

theorem leads_label {label : Option String} (h : ∀ s ∈ label, isName s.toList = true) :
    Leads (labelLexemes label) (wrapped "" (label.getD "") ": ") := by
  intro ms cs hcs
  cases label with
  | none => exact hcs
  | some s =>
    have hs := h s rfl
    rw [Option.getD_some, wrapped_of_ne ((Spells.word hs).ne_empty (by simp)), String.empty_append,
      String.toList_append, List.append_assoc]
    exact .word hs rfl (.mark rfl (.blank rfl hcs))

theorem spells_condition {typeName : Option String} (h : ∀ s ∈ typeName, isName s.toList = true) :
    Spells (conditionLexemes typeName) (wrapped "on " (typeName.getD "") "") := by
  cases typeName with
  | none => exact .empty
  | some s =>
    have hon : Leads [.name "on"] "on " := fun _ _ h => .word (w := "on") rfl rfl (.blank rfl h)
    have hs := Spells.word (h s rfl)
    rw [Option.getD_some, wrapped_of_ne (hs.ne_empty (by simp)), String.append_empty]
    exact hon.append hs (by simp)

theorem spells_printCall {label : Option String} {name : String} {arguments : List ValueArgument}
    (hlabel : ∀ s ∈ label, isName s.toList = true) (hname : isName name.toList = true)
    (harguments : ∀ a ∈ arguments, a.WellFormed false) :
    Spells (labelLexemes label ++
        .name name :: enclosed .parenL .parenR (arguments.flatMap ValueArgument.lexemes))
      (printCall label name (arguments.map ValueArgument.print)) := by
  have hall : ∀ a ∈ arguments, Spells a.lexemes a.print := fun a ha => (harguments a ha).spells
  have hcall {before inner after : String} (hbefore : Detaches before)
      (h : Spells (enclosed .parenL .parenR (arguments.flatMap ValueArgument.lexemes))
        (wrapped before inner after)) :
      Spells (labelLexemes label ++
          .name name :: enclosed .parenL .parenR (arguments.flatMap ValueArgument.lexemes))
        (wrapped "" (label.getD "") ": " ++ name ++ wrapped before inner after) := by
    rw [String.append_assoc]
    exact (leads_label hlabel).append ((Spells.word hname).append (hbefore.wrapped _ _) h) (by simp)
  rw [printCall]
  split
  · exact hcall (fun _ => rfl) (spells_lines hall)
  · exact hcall (fun _ => rfl) (spells_line hall)

theorem Selection.printAll_eq (ss : List Selection) :
    Selection.printAll ss = ss.map Selection.print := by
  induction ss with
  | nil => rfl
  | cons s ss ih => rw [Selection.printAll, ih, List.map_cons]

theorem Selection.lexemes_ne_nil (s : Selection) : s.lexemes ≠ [] := by
  obtain ⟨l, more, hl, -⟩ := s.stops_lexemes List.not_mem_nil
  simp [hl]

theorem spells_selections {ss : List Selection} (h : ∀ s ∈ ss, Spells s.lexemes s.print) :
    Spells (enclosed .braceL .braceR (ss.flatMap Selection.lexemes))
      (block (Selection.printAll ss)) := by
  rw [Selection.printAll_eq]
  exact .block h fun s _ => s.lexemes_ne_nil

theorem Selection.WellFormed.spells {s : Selection} (h : s.WellFormed) :
    Spells s.lexemes s.print := by
  induction h with
  | field hlabel hname harguments hdirectives _ ih =>
    have hpieces := Spells.joined (.cons (spells_printCall hlabel hname harguments)
      (.cons (spells_printDirectives hdirectives) (.cons (spells_selections ih) .nil))) blank_space
    simpa [Selection.lexemes, Selection.print, Selection.allLexemes_eq] using hpieces
  | spread hname _ hdirectives =>
    have hspread : Leads [.punctuator .spread] "..." := fun _ _ h => .spread h
    rw [Selection.lexemes, Selection.print, String.append_assoc]
    exact hspread.append ((Spells.word hname).append (detaches_space.wrapped _ _)
      (spells_wrapped_directives hdirectives)) (by simp)
  | inline htype hdirectives _ _ ih =>
    have hspread : Spells [.punctuator .spread] "..." := .of_ne_nil (by simp) (.spread .nil)
    have hpieces := Spells.joined (.cons hspread (.cons (spells_condition htype)
      (.cons (spells_printDirectives hdirectives) (.cons (spells_selections ih) .nil)))) blank_space
    simpa [Selection.lexemes, Selection.print, Selection.allLexemes_eq] using hpieces

/-! ## Operations and fragments -/

theorem spells_printDefault {v : Option Value} (h : ∀ x ∈ v, x.WellFormed true) :
    Spells (defaultLexemes v) (printDefault v) := by
  cases v with
  | none => exact .empty
  | some x =>
    have hequals : Leads [.punctuator .equals] " = " :=
      fun _ _ h => .blank rfl (.mark rfl (.blank rfl h))
    have hx := (h x rfl).spells
    rw [printDefault, Option.map_some, Option.getD_some, wrapped_of_ne (hx.ne_empty x.lexemes_ne_nil),
      String.append_empty]
    exact hequals.append hx (by simp)

theorem VariableDefinition.WellFormed.spells {v : VariableDefinition} (h : v.WellFormed) :
    Spells v.lexemes v.print := by
  have hdollar : Leads [.punctuator .dollar] "$" := fun _ _ h => .mark rfl h
  have hdetached : Detached (printDefault v.defaultValue ++
      wrapped " " (printDirectives v.directives) "") :=
    Detached.append (Detaches.wrapped (fun _ => rfl) _ _) (detaches_space.wrapped _ _)
  have hdefault := (spells_printDefault h.defaultValue).append (detaches_space.wrapped _ _)
    (spells_wrapped_directives h.directives)
  have hall := hdollar.append (spells_labeled h.name (h.type.spells.append hdetached hdefault))
    (by simp)
  simpa [VariableDefinition.lexemes, VariableDefinition.print, String.append_assoc] using hall

theorem isName_keyword (kind : OperationKind) : isName kind.keyword.toList = true := by
  cases kind <;> decide

/-- What an operation is printed with in front of its selections. -/
def Operation.printHead (o : Operation) : String :=
  joined " " [o.kind.keyword,
    o.name.getD "" ++ wrapped "(" (joined ", " (o.declared.map VariableDefinition.print)) ")",
    printDirectives o.directives]

theorem Operation.WellFormed.spells_head {o : Operation} (h : o.WellFormed) :
    Spells o.headLexemes o.printHead := by
  have hname : Spells (o.name.toList.map Lexeme.name) (o.name.getD "") := by
    cases hname : o.name with
    | none => exact .empty
    | some s => exact .word (h.name s hname)
  have hopen : Detaches "(" := fun _ => rfl
  have hdeclared := hname.append (hopen.wrapped _ _)
    (spells_line fun v hv => (h.declared v hv).spells)
  have hpieces := Spells.joined (.cons (.word (isName_keyword o.kind)) (.cons hdeclared
    (.cons (spells_printDirectives h.directives) .nil))) blank_space
  simpa [headLexemes, printHead] using hpieces

theorem enclosed_eq_nil {opening close : Punctuator} : enclosed opening close ls = [] ↔ ls = [] := by
  rw [enclosed]
  split <;> simp_all

/-- The short form is printed for nothing but selections. -/
theorem Operation.WellFormed.printHead_eq_iff {o : Operation} (h : o.WellFormed) :
    o.printHead = "query" ↔ o.isBare = true := by
  have hhead := h.spells_head.spelling
  obtain ⟨kind, name, declared, directives, selections⟩ := o
  constructor
  · intro he
    rw [he] at hhead
    -- one text spells one list of lexemes
    have hlexemes : headLexemes ⟨kind, name, declared, directives, selections⟩ ++ [.eof] =
        [.name "query", .eof] := (lexemesOf_spelling hhead).symm.trans (by decide)
    have hnil : headLexemes ⟨kind, name, declared, directives, selections⟩ = [.name "query"] :=
      List.append_cancel_right hlexemes
    simp only [headLexemes, List.cons.injEq, Lexeme.name.injEq, List.append_eq_nil_iff,
      List.map_eq_nil_iff, Option.toList_eq_nil_iff, enclosed_eq_nil, List.flatMap_eq_nil_iff] at hnil
    obtain ⟨hkind, hname, hdeclared, hdirectives⟩ := hnil
    obtain rfl : kind = .query := by cases kind <;> simp_all [OperationKind.keyword]
    obtain rfl : declared = [] :=
      List.eq_nil_iff_forall_not_mem.mpr fun v hv => List.cons_ne_nil _ _ (hdeclared v hv)
    obtain rfl : directives = [] :=
      List.eq_nil_iff_forall_not_mem.mpr fun d hd => List.cons_ne_nil _ _ (hdirectives d hd)
    rw [hname]
    rfl
  · intro hbare
    simp only [isBare, Bool.and_eq_true, decide_eq_true_eq, Option.isNone_iff_eq_none,
      List.isEmpty_iff] at hbare
    obtain ⟨⟨⟨rfl, rfl⟩, rfl⟩, rfl⟩ := hbare
    rfl

theorem Operation.WellFormed.spells {o : Operation} (h : o.WellFormed) :
    Spells o.lexemes o.print := by
  have hselections := spells_selections fun s hs => (h.selections s hs).spells
  have hprint : o.print = (if o.printHead = "query" then "" else o.printHead ++ " ") ++
    block (Selection.printAll o.selections) := rfl
  rw [hprint, Operation.lexemes]
  by_cases hbare : o.isBare = true
  · rw [if_pos (h.printHead_eq_iff.mpr hbare), if_pos hbare, String.empty_append, List.nil_append]
    exact hselections
  · have hne : enclosed .braceL .braceR (o.selections.flatMap Selection.lexemes) ≠ [] :=
      mt enclosed_eq_nil.mp (selectionLexemes_ne_nil h.selections_ne_nil)
    rw [if_neg (mt h.printHead_eq_iff.mp hbare), if_neg hbare, String.append_assoc]
    exact h.spells_head.append (detaches_space.append _) (blank_space.leads.append hselections hne)

theorem Fragment.WellFormed.spells {f : Fragment} (h : f.WellFormed) : Spells f.lexemes f.print := by
  have hkeyword : Leads [.name "fragment"] "fragment " :=
    fun _ _ h => .word (w := "fragment") rfl rfl (.blank rfl h)
  have hon : Leads [.name "on"] " on " :=
    fun _ _ h => .blank rfl (.word (w := "on") rfl rfl (.blank rfl h))
  have hends : Detaches " on " := fun _ => rfl
  have hne : enclosed .braceL .braceR (f.selections.flatMap Selection.lexemes) ≠ [] :=
    mt enclosed_eq_nil.mp (selectionLexemes_ne_nil h.selections_ne_nil)
  have hselections := ((spells_printDirectives h.directives).leads blank_space).append
    (spells_selections fun s hs => (h.selections s hs).spells) (by simp [hne])
  have htype := (Spells.word h.typeName).append (detaches_space.append _)
    (blank_space.leads.append hselections (by simp [hne]))
  have hall := hkeyword.append ((Spells.word h.name).append (hends.append _)
    (hon.append htype (by simp))) (by simp)
  simpa [Fragment.lexemes, Fragment.print, String.append_assoc] using hall

/-! ## Definitions of inputs, fields and values -/

theorem leads_description {description : Option StringLiteral} (h : IsDescription description) :
    Leads (descriptionLexemes description) (printDescription description) := by
  have hspells : Spells (descriptionLexemes description)
      ((description.map StringLiteral.print).getD "") := by
    cases description with
    | none => exact .empty
    | some s => exact s.spells_print (h s rfl)
  exact hspells.leads blank_newline

theorem InputDefinition.WellFormed.spells {d : InputDefinition} (h : d.WellFormed) :
    Spells d.lexemes d.print := by
  have hdefault : Spells (defaultLexemes d.defaultValue)
      (wrapped "= " ((d.defaultValue.map Value.print).getD "") "") := by
    cases hvalue : d.defaultValue with
    | none => exact .empty
    | some x =>
      have hequals : Leads [.punctuator .equals] "= " := fun _ _ h => .mark rfl (.blank rfl h)
      have hx := (h.defaultValue x hvalue).spells
      rw [Option.map_some, Option.getD_some, wrapped_of_ne (hx.ne_empty x.lexemes_ne_nil),
        String.append_empty]
      exact hequals.append hx (by simp)
  have hpieces := Spells.joined (.cons (spells_labeled h.name h.type.spells) (.cons hdefault
    (.cons (spells_printDirectives h.directives) .nil))) blank_space
  have hall := (leads_description h.description).append hpieces (by simp)
  simpa [InputDefinition.lexemes, InputDefinition.print] using hall

theorem spells_printArgumentDefinitions {ds : List InputDefinition} (h : ∀ d ∈ ds, d.WellFormed) :
    Spells (enclosed .parenL .parenR (ds.flatMap InputDefinition.lexemes))
      (printArgumentDefinitions ds) := by
  rw [printArgumentDefinitions]
  split
  · exact spells_lines fun d hd => (h d hd).spells
  · exact spells_line fun d hd => (h d hd).spells

theorem detached_printArgumentDefinitions (ds : List InputDefinition) :
    Detached (printArgumentDefinitions ds) := by
  rw [printArgumentDefinitions]
  split
  · exact Detaches.wrapped (fun _ => rfl) _ _
  · exact Detaches.wrapped (fun _ => rfl) _ _

theorem FieldDefinition.WellFormed.spells {d : FieldDefinition} (h : d.WellFormed) :
    Spells d.lexemes d.print := by
  have hcolon : Leads [.punctuator .colon] ": " := fun _ _ h => .mark rfl (.blank rfl h)
  have hends : Detaches ": " := fun _ => rfl
  have htype := hcolon.append (h.type.spells.append (detaches_space.wrapped _ _)
    (spells_wrapped_directives h.directives)) (by simp)
  have harguments := (spells_printArgumentDefinitions h.arguments).append (hends.append _) htype
  have hall := (leads_description h.description).append ((Spells.word h.name).append
    ((detached_printArgumentDefinitions d.arguments).append (hends.append _)) harguments) (by simp)
  simpa [FieldDefinition.lexemes, FieldDefinition.print, String.append_assoc] using hall

theorem EnumValueDefinition.WellFormed.spells {d : EnumValueDefinition} (h : d.WellFormed) :
    Spells d.lexemes d.print := by
  have hpieces := Spells.joined (.cons (.word h.name)
    (.cons (spells_printDirectives h.directives) .nil)) blank_space
  have hall := (leads_description h.description).append hpieces (by simp)
  simpa [EnumValueDefinition.lexemes, EnumValueDefinition.print] using hall

/-! ## Definitions of types, schemas and directives -/

/-- Names behind a lexeme that introduces them, if there are any. -/
theorem spells_names {l : Lexeme} {c : Char} {p : Punctuator} {before sep : String}
    {names : List String} (h : ∀ s ∈ names, isName s.toList = true) (hbefore : Leads [l] before)
    (hp : Punctuator.ofChar? c = some p) (hsep : sep.toList = [' ', c, ' ']) :
    Spells (if names = [] then [] else l :: delimitedLexemes p names)
      (wrapped before (joined sep names) "") := by
  have hnames : Spells (delimitedLexemes p names) (joined sep names) := .delimited h hp hsep
  cases names with
  | nil => exact .empty
  | cons s names =>
    obtain ⟨more, hmore⟩ := exists_delimitedLexemes p s names
    rw [if_neg (by simp), wrapped_of_ne (hnames.ne_empty (by simp [hmore])), String.append_empty]
    exact hbefore.append hnames (by simp)

theorem spells_printInterfaces {names : List String} (h : ∀ s ∈ names, isName s.toList = true) :
    Spells (interfaceLexemes names) (printInterfaces names) :=
  spells_names (c := '&') h (fun _ _ h => .word (w := "implements") rfl rfl (.blank rfl h)) rfl
    (by simp)

theorem spells_members {names : List String} (h : ∀ s ∈ names, isName s.toList = true) :
    Spells (memberLexemes names) (wrapped "= " (joined " | " names) "") :=
  spells_names (c := '|') h (fun _ _ h => .mark rfl (.blank rfl h)) rfl (by simp)

theorem InputDefinition.spells_block {ds : List InputDefinition} (h : ∀ d ∈ ds, d.WellFormed) :
    Spells (enclosed .braceL .braceR (ds.flatMap lexemes)) (block (ds.map print)) :=
  .block (fun d hd => (h d hd).spells) fun d _ => by simp [lexemes]

theorem FieldDefinition.spells_block {ds : List FieldDefinition} (h : ∀ d ∈ ds, d.WellFormed) :
    Spells (enclosed .braceL .braceR (ds.flatMap lexemes)) (block (ds.map print)) :=
  .block (fun d hd => (h d hd).spells) fun d _ => by simp [lexemes]

theorem EnumValueDefinition.spells_block {ds : List EnumValueDefinition}
    (h : ∀ d ∈ ds, d.WellFormed) :
    Spells (enclosed .braceL .braceR (ds.flatMap lexemes)) (block (ds.map print)) :=
  .block (fun d hd => (h d hd).spells) fun d _ => by simp [lexemes]

/-- The pieces behind the name of a type, one by one. -/
theorem TypeBody.WellFormed.exists_pieces {b : TypeBody} (h : b.WellFormed) {ls : List Lexeme}
    {directives : String} (hds : Spells ls directives) :
    ∃ lss, List.Forall₂ Spells lss (b.print directives) ∧ lss.flatten = b.lexemes ls := by
  cases b with
  | scalar => exact ⟨_, .cons hds .nil, by simp [lexemes]⟩
  | object interfaces fields | interface interfaces fields =>
    exact ⟨_, .cons (spells_printInterfaces h.1) (.cons hds
      (.cons (FieldDefinition.spells_block h.2) .nil)), by simp [lexemes]⟩
  | union members => exact ⟨_, .cons hds (.cons (spells_members h) .nil), by simp [lexemes]⟩
  | enum values =>
    exact ⟨_, .cons hds (.cons (EnumValueDefinition.spells_block h) .nil), by simp [lexemes]⟩
  | input fields =>
    exact ⟨_, .cons hds (.cons (InputDefinition.spells_block h) .nil), by simp [lexemes]⟩

theorem spells_extended (extending : Bool) (hs : isName s.toList = true) :
    Spells (extendLexemes extending ++ [.name s]) ((if extending then "extend " else "") ++ s) := by
  have hextend : Leads [.name "extend"] "extend " :=
    fun _ _ h => .word (w := "extend") rfl rfl (.blank rfl h)
  cases extending with
  | false => exact (String.empty_append (s := s)).symm ▸ Spells.word hs
  | true => exact hextend.append (.word hs) (by simp)

theorem TypeDefinition.WellFormed.spells {d : TypeDefinition} (h : d.WellFormed) :
    Spells d.lexemes d.print := by
  have hkeywords : ∀ s ∈ typeKeywords, isName s.toList = true := by decide
  have hkeyword := hkeywords _ (mem_typeKeywords d.body)
  obtain ⟨lss, hbody, hlss⟩ := h.body.exists_pieces (spells_printDirectives h.directives)
  have hpieces := Spells.joined (.cons (spells_extended d.extending hkeyword)
    (.cons (.word h.name) hbody)) blank_space
  have hall := (leads_description h.description).append hpieces (by simp)
  simpa [TypeDefinition.lexemes, TypeDefinition.print, hlss] using hall

theorem SchemaDefinition.WellFormed.spells {d : SchemaDefinition} (h : d.WellFormed) :
    Spells d.lexemes d.print := by
  have hword : (if d.extending then "extend schema" else "schema") =
      (if d.extending then "extend " else "") ++ "schema" := by
    cases d.extending <;> rfl
  have hkeyword := spells_extended d.extending (s := "schema") (by decide)
  have hroots := Spells.block (fun root hroot => spells_labeled (isName_keyword root.1)
    (.word (h.roots root hroot))) fun _ _ => List.cons_ne_nil _ _
  have hpieces := Spells.joined (.cons hkeyword (.cons (spells_printDirectives h.directives)
    (.cons hroots .nil))) blank_space
  have hall := (leads_description h.description).append hpieces (by simp)
  have hlexemes : d.lexemes = descriptionLexemes d.description ++
      [extendLexemes d.extending ++ [.name "schema"], d.directives.flatMap Directive.lexemes,
        enclosed .braceL .braceR (d.roots.flatMap rootLexemes)].flatten := by
    simp [SchemaDefinition.lexemes]
  rw [hlexemes, SchemaDefinition.print, hword]
  exact hall

theorem DirectiveDefinition.WellFormed.spells {d : DirectiveDefinition} (h : d.WellFormed) :
    Spells d.lexemes d.print := by
  have hkeyword : Leads [.name "directive", .punctuator .atSign] "directive @" :=
    fun _ _ h => .word (w := "directive") rfl rfl (.blank rfl (.mark rfl h))
  have hon : Leads [.name "on"] " on " :=
    fun _ _ h => .blank rfl (.word (w := "on") rfl rfl (.blank rfl h))
  have hends : Detaches " on " := fun _ => rfl
  have hlocations : ∀ s ∈ d.locations.map DirectiveLocation.keyword, isName s.toList = true := by
    intro s hs
    obtain ⟨location, -, rfl⟩ := List.mem_map.mp hs
    cases location <;> rfl
  have hnames : Spells (delimitedLexemes .pipe (d.locations.map DirectiveLocation.keyword))
      (joined " | " (d.locations.map DirectiveLocation.keyword)) :=
    .delimited hlocations (c := '|') rfl (by simp)
  have hrepeatable : Spells (if d.repeatable then [.name "repeatable"] else [])
      (if d.repeatable then " repeatable" else "") := by
    cases d.repeatable with
    | false => exact .empty
    | true => exact .of_ne_nil (by simp) (.blank rfl (.word (w := "repeatable") rfl rfl .nil))
  have hdetached : Detached (if d.repeatable then " repeatable" else "") := by
    cases d.repeatable <;> rfl
  have htail := hrepeatable.append (hends.append _) (hon.append hnames (by simp))
  have harguments := (spells_printArgumentDefinitions h.arguments).append
    (hdetached.append (hends.append _)) htail
  have hname := (Spells.word h.name).append ((detached_printArgumentDefinitions d.arguments).append
    (hdetached.append (hends.append _))) harguments
  have hall := (leads_description h.description).append (hkeyword.append hname (by simp)) (by simp)
  simpa [DirectiveDefinition.lexemes, DirectiveDefinition.print, String.append_assoc] using hall

/-! ## Documents -/

theorem Definition.WellFormed.spells {d : Definition} (h : d.WellFormed) :
    Spells d.lexemes d.print := by
  cases d with
  | operation o => exact Operation.WellFormed.spells h
  | fragment f => exact Fragment.WellFormed.spells h
  | schema d => exact SchemaDefinition.WellFormed.spells h
  | type d => exact TypeDefinition.WellFormed.spells h
  | directive d => exact DirectiveDefinition.WellFormed.spells h

namespace Document

theorem WellFormed.spells {d : Document} (h : d.WellFormed) : Spells d.lexemes d.print :=
  .joined_map (fun x hx => (h.definitions x hx).spells) blank_newlines

/-- A well-formed document with its definitions apart is what its printed form means. -/
theorem WellFormed.parse_print {d : Document} (h : d.WellFormed) (hd : d.Apart) :
    parse d.print = .ok d := by
  rw [parse_of_spelling h.spells.spelling, ofTokens_lexemes h hd]

/-- What a text of steady tokens means is well-formed. -/
theorem wellFormed_of_parse {text : String} {d : Document} (h : parse text = .ok d)
    (hsteady : ∀ t ∈ tokens text, t.lexeme.Steady) : d.WellFormed := by
  have hwritable : ∀ t ∈ (tokens text).map Token.unplaced, t.Writable := by
    intro t ht
    obtain ⟨u, hu, rfl⟩ := List.mem_map.mp ht
    have hprintable : u.lexeme.Printable := printable_of_mem_tokensFrom hu (hsteady u hu)
    exact ⟨hprintable, rfl⟩
  rw [parse, ofTokens] at h
  cases hread : (readDocument.run ((tokens text).map Token.unplaced).length).run
      ((tokens text).map Token.unplaced) with
  | error e =>
    rw [hread] at h
    cases h
  | ok p =>
    rw [hread] at h
    cases h
    exact (gives_readDocument _ _ p.1 p.2 hwritable hread).1

/-- What a text has to be for its reprint to mean the same. -/
structure Reprintable (text : String) : Prop where
  steady : ∀ t ∈ tokens text, t.lexeme.Steady
  apart : ∀ d, parse text = .ok d → d.Apart

instance (a b : Definition) : Decidable (a.Apart b) := inferInstanceAs (Decidable (_ → _))

instance (d : Document) : Decidable d.Apart := inferInstanceAs (Decidable (d.definitions.IsChain _))

instance (text : String) : Decidable (Reprintable text) :=
  decidable_of_iff ((∀ t ∈ tokens text, t.lexeme.Steady) ∧ ∀ d ∈ (parse text).toOption, d.Apart)
    ⟨fun h => ⟨h.1, fun d hd => h.2 d (by rw [hd]; rfl)⟩, fun h => ⟨h.steady, fun d hd => by
      cases hparse : parse text with
      | error e => rw [hparse] at hd; cases hd
      | ok d' => rw [hparse] at hd; cases hd; exact h.apart d hparse⟩⟩

/-- The reprint of a text means what the text means, and it is its own reprint. -/
theorem Reprintable.normalize_print {text : String} {d : Document} (ht : Reprintable text)
    (h : parse text = .ok d) : parse d.print = .ok d ∧ normalize d.print = .ok d.print := by
  have hparse := (wellFormed_of_parse h ht.steady).parse_print (ht.apart d h)
  refine ⟨hparse, ?_⟩
  rw [normalize, hparse]
  rfl

end Document

end RequestBook
