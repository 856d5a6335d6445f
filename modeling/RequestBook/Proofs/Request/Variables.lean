import RequestBook.Proofs.Json.Appending
import RequestBook.Proofs.Request.Reprint
import RequestBook.Proofs.Request.Signature
import RequestBook.Proofs.Request.Source
import RequestBook.Proofs.Request.Stages

/-!
# Variables of a request

The text of the variables leaves a mark for every argument that has to be filled in. Filled with
JSON texts in turn, it is a JSON text of an object that has the arguments for its names and what was
filled in for its values; as it stands it is one only if nothing has to be filled in. The variables
that a request declares and passes on are the same, in the same order.
-/

namespace RequestBook

open Json Text

/-- A variable is left open for an argument that must not be null. -/
def Argument.IsOpen (a : Argument) : Prop := a.type.kind = .nonNull

instance (a : Argument) : Decidable a.IsOpen := inferInstanceAs (Decidable (a.type.kind = .nonNull))

def openArguments (arguments : List Argument) : List Argument := arguments.filter fun a => a.IsOpen

/-- What arguments are given: the values in turn where one is left open, and `unset` otherwise. -/
def assigned {α : Type} (unset : α) : List Argument → List α → List (String × α)
  | [], _ => []
  | a :: rest, values =>
    if a.IsOpen then (a.name.plain, values.headD unset) :: assigned unset rest values.tail
    else (a.name.plain, unset) :: assigned unset rest values

/-- A text with each of its marks replaced by the next value, as long as there is one. -/
def fillFrom : List Char → List String → List Char
  | [], _ => []
  | '#' :: cs, value :: values => value.toList ++ fillFrom cs values
  | c :: cs, values => c :: fillFrom cs values

def filled (text : String) (values : List String) : String :=
  String.ofList (fillFrom text.toList values)

/-! ## The text -/

def variableLine (m : String × String) : String := "\t\"" ++ m.1 ++ "\": " ++ m.2

def variableLines (members : List (String × String)) : String :=
  separated ",\n" (members.map variableLine)

def variablesText (members : List (String × String)) : String :=
  "\x7b\n" ++ variableLines members ++ "\n\x7d"

/-- An argument with what stands for its value before it is filled in. -/
def Argument.marked (a : Argument) : String × String := (a.name.plain, a.type.placeholder)

theorem Field.values_eq (f : Field) : f.values = variablesText (f.arguments.map Argument.marked) := by
  have hline (a : Argument) : "\t" ++ a.formatted.entry = variableLine a.marked := by
    rw [← String.toList_inj]
    simp [Argument.formatted, variableLine, Argument.marked]
  have hlines : f.argumentTexts.entries =
      separated ",\n" (f.arguments.map fun a => "\t" ++ a.formatted.entry) := by
    simp only [Field.argumentTexts, ArgumentTexts.ofFormatted, List.map_map]
    rfl
  rw [Field.values, hlines, variablesText, variableLines, List.map_map]
  simp only [hline]
  rfl

theorem Argument.placeholder_open {a : Argument} (h : a.IsOpen) : a.type.placeholder = "#" :=
  if_pos h

theorem Argument.placeholder_closed {a : Argument} (h : ¬ a.IsOpen) : a.type.placeholder = "null" :=
  if_neg h

theorem toList_variablesText (members : List (String × String)) :
    (variablesText members).toList =
      '\x7b' :: '\n' :: ((variableLines members).toList ++ ['\n', '\x7d']) := by
  simp [variablesText]

theorem toList_variableLines_cons_cons (m n : String × String) (members : List (String × String))
    (tail : List Char) :
    (variableLines (m :: n :: members)).toList ++ tail =
      (variableLine m).toList ++ (',' :: '\n' :: ((variableLines (n :: members)).toList ++ tail)) := by
  simp [variableLines, separated_cons_cons]

theorem toList_variableLine (name value : String) (more : List Char) :
    (variableLine (name, value)).toList ++ more =
      '\t' :: '"' :: (name.toList ++ '"' :: ':' :: ' ' :: (value.toList ++ more)) := by
  simp [variableLine]

variable {arguments rest : List Argument} {a : Argument} {values : List String} {js : List Json}
  {cs tail : List Char}

/-! ## Marks -/

theorem openArguments_open (h : a.IsOpen) (rest : List Argument) :
    openArguments (a :: rest) = a :: openArguments rest :=
  List.filter_cons_of_pos (by simpa using h)

theorem openArguments_closed (h : ¬ a.IsOpen) (rest : List Argument) :
    openArguments (a :: rest) = openArguments rest :=
  List.filter_cons_of_neg (by simpa using h)

theorem unmarked_ending : '#' ∉ ['\n', '\x7d'] := by decide

theorem count_variableLine (hname : a.name.IsName) (more : List Char) :
    ((variableLine a.marked).toList ++ more).count '#' =
      (if a.IsOpen then 1 else 0) + more.count '#' := by
  have hnone : a.name.plain.toList.count '#' = 0 :=
    List.count_eq_zero.mpr (not_mem_of_isName hname.plain rfl)
  rw [Argument.marked, toList_variableLine]
  by_cases h : a.IsOpen
  · rw [Argument.placeholder_open h, if_pos h]
    simp [hnone]
    omega
  · rw [Argument.placeholder_closed h, if_neg h]
    simp [hnone]

theorem count_variableLines (hnames : ∀ a ∈ arguments, a.name.IsName) (htail : '#' ∉ tail) :
    ((variableLines (arguments.map Argument.marked)).toList ++ tail).count '#' =
      (openArguments arguments).length := by
  induction arguments with
  | nil => exact List.count_eq_zero.mpr htail
  | cons a rest ih =>
    obtain ⟨hname, hnames⟩ := List.forall_mem_cons.mp hnames
    have hopen : (openArguments (a :: rest)).length =
        (if a.IsOpen then 1 else 0) + (openArguments rest).length := by
      by_cases h : a.IsOpen
      · rw [openArguments_open h, if_pos h, List.length_cons, Nat.add_comm]
      · rw [openArguments_closed h, if_neg h, Nat.zero_add]
    have hrest := ih hnames
    rw [hopen, ← hrest]
    cases rest with
    | nil => exact count_variableLine hname tail
    | cons b rest =>
      rw [List.map_cons, List.map_cons, toList_variableLines_cons_cons, count_variableLine hname]
      rfl

/-! ## Filling -/

theorem fillFrom_append (h : '#' ∉ cs) (more : List Char) (values : List String) :
    fillFrom (cs ++ more) values = cs ++ fillFrom more values := by
  induction cs with
  | nil => rfl
  | cons c cs ih =>
    obtain ⟨hc, hcs⟩ := not_or.mp (mt List.mem_cons.mpr h)
    rw [List.cons_append, fillFrom, ih hcs]
    · rfl
    · exact fun _ _ _ hmark => hc hmark.symm

theorem fillFrom_of_not_mem (h : '#' ∉ cs) (values : List String) : fillFrom cs values = cs := by
  have happend := fillFrom_append h [] values
  rwa [List.append_nil, fillFrom, List.append_nil] at happend

theorem filled_nil (text : String) : filled text [] = text := by
  have hnil (cs : List Char) : fillFrom cs [] = cs := by
    induction cs with
    | nil => rfl
    | cons c cs ih => rw [fillFrom, ih]; simp
  rw [filled, hnil, String.ofList_toList]

/-- Filling starts with the line of the first argument and goes on with the values that are left. -/
theorem exists_fillFrom_variableLine (hname : a.name.IsName)
    (hsize : values.length = (openArguments (a :: rest)).length) :
    ∃ value left, left.length = (openArguments rest).length ∧
      assigned "null" (a :: rest) values = (a.name.plain, value) :: assigned "null" rest left ∧
      ∀ more, fillFrom ((variableLine a.marked).toList ++ more) values =
        (variableLine (a.name.plain, value)).toList ++ fillFrom more left := by
  have hnone : '#' ∉ a.name.plain.toList := not_mem_of_isName hname.plain rfl
  have hstart (cs : List Char) (values : List String) :
      fillFrom ('\t' :: '"' :: (a.name.plain.toList ++ '"' :: ':' :: ' ' :: cs)) values =
        '\t' :: '"' :: (a.name.plain.toList ++ '"' :: ':' :: ' ' :: fillFrom cs values) := by
    have hunmarked : '#' ∉ '\t' :: '"' :: (a.name.plain.toList ++ ['"', ':', ' ']) := by
      simp [hnone]
    simpa using fillFrom_append hunmarked cs values
  by_cases h : a.IsOpen
  · rw [openArguments_open h, List.length_cons] at hsize
    obtain ⟨value, left, rfl⟩ := List.exists_cons_of_length_eq_add_one hsize
    refine ⟨value, left, Nat.succ.inj hsize, ?_, fun more => ?_⟩
    · rw [assigned, if_pos h]
      rfl
    · rw [Argument.marked, toList_variableLine, Argument.placeholder_open h, hstart,
        toList_variableLine]
      rfl
  · rw [openArguments_closed h] at hsize
    refine ⟨"null", values, hsize, ?_, fun more => ?_⟩
    · rw [assigned, if_neg h]
    · rw [Argument.marked, toList_variableLine, Argument.placeholder_closed h, hstart,
        fillFrom_append (by decide), toList_variableLine]

theorem fillFrom_variableLines (hnames : ∀ a ∈ arguments, a.name.IsName) (htail : '#' ∉ tail)
    (hsize : values.length = (openArguments arguments).length) :
    fillFrom ((variableLines (arguments.map Argument.marked)).toList ++ tail) values =
      (variableLines (assigned "null" arguments values)).toList ++ tail := by
  induction arguments generalizing values with
  | nil => exact fillFrom_of_not_mem htail values
  | cons a rest ih =>
    obtain ⟨hname, hnames⟩ := List.forall_mem_cons.mp hnames
    obtain ⟨value, left, hleft, hassigned, hfill⟩ := exists_fillFrom_variableLine hname hsize
    have hrest := ih hnames hleft
    rw [hassigned]
    -- what follows the line holds no mark if it is the last one, and more lines otherwise
    cases rest with
    | nil =>
      have hend := hfill tail
      rwa [fillFrom_of_not_mem htail] at hend
    | cons b rest =>
      obtain ⟨m, ms, hms⟩ : ∃ m ms, assigned "null" (b :: rest) left = m :: ms := by
        rw [assigned]
        split <;> exact ⟨_, _, rfl⟩
      rw [hms] at hrest ⊢
      rw [List.map_cons, List.map_cons, toList_variableLines_cons_cons, hfill,
        toList_variableLines_cons_cons, ← hrest]
      rfl

theorem filled_variablesText (hnames : ∀ a ∈ arguments, a.name.IsName)
    (hsize : values.length = (openArguments arguments).length) :
    filled (variablesText (arguments.map Argument.marked)) values =
      variablesText (assigned "null" arguments values) := by
  have hlines := fillFrom_variableLines hnames unmarked_ending hsize
  rw [← String.toList_inj, filled, String.toList_ofList, toList_variablesText,
    toList_variablesText, ← hlines]
  rfl

/-! ## Reading -/

theorem toNat_ge_of_isNameContinue {c : Char} (h : isNameContinue c = true) : 0x20 ≤ c.toNat := by
  have hcontrol : ∀ n < 0x20, isNameContinue (Char.ofNat n) = false := by decide
  by_contra hlt
  rw [← Char.ofNat_toNat c, hcontrol _ (Nat.lt_of_not_le hlt)] at h
  cases h

theorem quotes_name {name : List Char} (h : isName name = true) (more : List Char) :
    Quotes (name ++ '"' :: more) name more := by
  have hcontinue : ∀ c ∈ name, isNameContinue c = true := fun _ => isNameContinue_of_mem h
  clear h
  induction name with
  | nil => exact .close more
  | cons c cs ih =>
    obtain ⟨hc, hcs⟩ := List.forall_mem_cons.mp hcontinue
    have hquote : c ≠ '"' := by
      rintro rfl
      cases hc
    have hescape : c ≠ '\\' := by
      rintro rfl
      cases hc
    exact .plain hquote hescape (toNat_ge_of_isNameContinue hc) (ih hcs)

/-- A line says its member if what is filled in is a text of the member's value. -/
theorem says_variableLine {name value : String} (hname : isName name.toList = true) {j : Json}
    (h : parse value = .ok j) : Says (variableLine (name, value)) (.member (name, j)) := by
  intro more hmore
  obtain ⟨mid, hmid, hrest⟩ := says_of_parse h more hmore
  have hcolon : unblanked (':' :: ' ' :: (value.toList ++ more)) =
      ':' :: ' ' :: (value.toList ++ more) := rfl
  have hnamed := Reads.named (quotes_name hname _) hcolon hmid
  rw [String.ofList_toList] at hnamed
  rw [toList_variableLine]
  exact ⟨mid, hnamed, hrest⟩

/-- The line of a member with a text of its value. -/
structure IsLineOf (t : String × String) (m : String × Json) : Prop where
  name : t.1 = m.1
  isName : isName t.1.toList = true
  value : parse t.2 = .ok m.2

theorem parse_variablesText {texts : List (String × String)} {members : List (String × Json)}
    (h : List.Forall₂ IsLineOf texts members) (hnodup : (members.map Prod.fst).Nodup) :
    parse (variablesText texts) = .ok (.obj members) := by
  have hsays : List.Forall₂ (fun line m => Says line (.member m)) (texts.map variableLine)
      members := by
    refine List.forall₂_map_left_iff.mpr (h.imp ?_)
    rintro ⟨name, value⟩ ⟨_, j⟩ ⟨rfl, hname, hvalue⟩
    exact says_variableLine hname hvalue
  have hobject : Reads (unblanked (variablesText texts).toList) (.value (.obj members)) [] := by
    rw [toList_variablesText]
    cases h with
    | nil => exact .emptyObject rfl
    | cons _ _ =>
      have hbreak : ∀ c ∈ ['\n'], TextReader.isBlank c = true := by simp [TextReader.isBlank]
      have hlines := Series.members.reads_separated hbreak hbreak (by simp) hsays []
      have hwhole : Reads ('\x7b' :: '\n' :: _) _ _ := .object hlines
      rwa [dedupe_of_nodup hnodup] at hwhole
  exact parse_of_reads hobject rfl

theorem map_fst_assigned {α : Type} (unset : α) (arguments : List Argument) (values : List α) :
    (assigned unset arguments values).map Prod.fst = arguments.map (·.name.plain) := by
  induction arguments generalizing values with
  | nil => rfl
  | cons a rest ih =>
    rw [assigned]
    split <;> rw [List.map_cons, List.map_cons, ih]

theorem parse_null : parse "null" = .ok .null := by
  exact Plain.null.parse_write rfl none

theorem isLineOf_assigned (hnames : ∀ a ∈ arguments, a.name.IsName)
    (h : List.Forall₂ (fun value j => parse value = .ok j) values js) :
    List.Forall₂ IsLineOf (assigned "null" arguments values) (assigned .null arguments js) := by
  induction arguments generalizing values js with
  | nil => exact .nil
  | cons a rest ih =>
    obtain ⟨hname, hnames⟩ := List.forall_mem_cons.mp hnames
    rw [assigned, assigned]
    split
    · cases h with
      | nil => exact .cons ⟨rfl, hname.plain, parse_null⟩ (ih hnames .nil)
      | cons hvalue hvalues => exact .cons ⟨rfl, hname.plain, hvalue⟩ (ih hnames hvalues)
    · exact .cons ⟨rfl, hname.plain, parse_null⟩ (ih hnames h)

/-! ## Reading before filling -/

theorem value_of_reads_member {name : String} (hname : isName name.toList = true)
    {m : String × Json} {left : List Char}
    (h : Reads ('"' :: (name.toList ++ '"' :: ':' :: ' ' :: cs)) (.member m) left) :
    ∃ j, Reads (unblanked cs) (.value j) left := by
  cases h with
  | @named _ name' mid more _ j hquotes hcolon hvalue =>
    obtain ⟨rfl, rfl⟩ := (quotes_name hname _).unique hquotes
    cases hcolon
    exact ⟨j, hvalue⟩

/-- A line can be read as a member only if it is not left open, and it is read to its end. -/
theorem reads_variableLine (hname : a.name.IsName) {m : String × Json} {more left : List Char}
    (hmore : EndsWord more)
    (h : Reads (unblanked ((variableLine a.marked).toList ++ more)) (.member m) left) :
    ¬ a.IsOpen ∧ left = more := by
  rw [Argument.marked, toList_variableLine] at h
  obtain ⟨j, hvalue⟩ := value_of_reads_member hname.plain h
  by_cases hopen : a.IsOpen
  · rw [Argument.placeholder_open hopen] at hvalue
    exact absurd rfl (hvalue.head?_ne (c := '#') rfl)
  · -- the same text goes on with `null`, and only one value can be read of it
    rw [Argument.placeholder_closed hopen] at hvalue
    have hnull : Reads ("null".toList ++ more) (.value .null) more :=
      Plain.null.reads rfl none hmore
    exact ⟨hopen, (hvalue.value_unique hnull).2⟩

theorem exists_member_of_reads {members : List (String × Json)} {left : List Char}
    (h : Reads cs (.members members) left) :
    ∃ m mid, Reads cs (.member m) mid ∧ (unblanked mid = '\x7d' :: left ∨
      ∃ more ms, unblanked mid = ',' :: more ∧ Reads (unblanked more) (.members ms) left) := by
  cases h with
  | lastMember hm hclose => exact ⟨_, _, hm, .inl hclose⟩
  | another hm hcomma hmore => exact ⟨_, _, hm, .inr ⟨_, _, hcomma, hmore⟩⟩

theorem openArguments_of_reads (hnames : ∀ a ∈ arguments, a.name.IsName)
    {members : List (String × Json)} {left : List Char}
    (h : Reads (unblanked ((variableLines (arguments.map Argument.marked)).toList ++ ['\n', '\x7d']))
      (.members members) left) : openArguments arguments = [] := by
  induction arguments generalizing members with
  | nil => rfl
  | cons a rest ih =>
    obtain ⟨hname, hnames⟩ := List.forall_mem_cons.mp hnames
    obtain ⟨m, mid, hm, hend⟩ := exists_member_of_reads h
    cases rest with
    | nil =>
      obtain ⟨hclosed, -⟩ := reads_variableLine hname (endsWord_cons rfl _) hm
      rw [openArguments_closed hclosed]
      rfl
    | cons b rest =>
      rw [List.map_cons, List.map_cons, toList_variableLines_cons_cons] at hm
      obtain ⟨hclosed, rfl⟩ := reads_variableLine hname (endsWord_cons rfl _) hm
      rw [openArguments_closed hclosed]
      -- a comma follows the line, so the object does not end there
      rcases hend with hclose | ⟨more, ms, hcomma, hmore⟩
      · cases hclose
      · cases hcomma
        exact ih hnames hmore

/-- As it stands, the text of the variables is a JSON text only if nothing is left open. -/
theorem parse_variablesText_iff (hnames : ∀ a ∈ arguments, a.name.IsName)
    (hdistinct : (arguments.map (·.name.plain)).Nodup) :
    (∃ j, parse (variablesText (arguments.map Argument.marked)) = .ok j) ↔
      openArguments arguments = [] := by
  constructor
  · rintro ⟨j, hj⟩
    obtain ⟨left, hreads, -⟩ := reads_of_parse hj
    rw [toList_variablesText] at hreads
    change Reads ('\x7b' :: '\n' :: _) _ _ at hreads
    cases hreads with
    | word h => exact absurd (wordAt?_head h) (by decide)
    | object h => exact openArguments_of_reads hnames h
    | emptyObject h =>
      cases arguments with
      | nil => rfl
      | cons a rest =>
        obtain ⟨more, hmore⟩ : ∃ more, (variableLines ((a :: rest).map Argument.marked)).toList ++
            ['\n', '\x7d'] = (variableLine a.marked).toList ++ more := by
          cases rest with
          | nil => exact ⟨_, rfl⟩
          | cons b rest => exact ⟨_, toList_variableLines_cons_cons _ _ _ _⟩
        rw [hmore, Argument.marked, toList_variableLine] at h
        cases h
  · intro hnone
    have hsize : ([] : List String).length = (openArguments arguments).length := by rw [hnone]; rfl
    have hfilled := filled_variablesText hnames hsize
    have hparse := parse_variablesText (isLineOf_assigned hnames .nil) (by rwa [map_fst_assigned])
    rw [← hfilled, filled_nil] at hparse
    exact ⟨_, hparse⟩

/-! ## Types -/

/-- The mark stands where the type ends in one, if its leaf is no wrapper. -/
theorem Argument.placeholder_iff {a : Argument} (hname : a.type.leafName.IsName)
    (hleaf : a.type.leafKind ≠ .nonNull) :
    a.formatted.placeholder = "#" ↔ a.formatted.type.plain.toList.getLast? = some '!' := by
  have hopen : a.formatted.placeholder = "#" ↔ a.IsOpen := by
    by_cases h : a.IsOpen
    · simp [Argument.formatted, Argument.placeholder_open h, h]
    · simp [Argument.formatted, Argument.placeholder_closed h, h]
  rw [hopen, Argument.formatted, TypeRef.plain_signatureValue, TypeRef.getLast?_signature hname,
    Argument.IsOpen]
  cases htype : a.type with
  | named n k =>
    rw [htype] at hleaf
    simpa [TypeRef.kind, TypeRef.leafKind] using hleaf
  | list t => simp [TypeRef.kind]
  | nonNull t => simp [TypeRef.kind]

/-! ## Whole requests -/

/-- What arguments are written as does not depend on the name of the field. -/
theorem Field.named_of_arguments {f : Field} (hnames : ∀ a ∈ f.arguments, a.name.IsName)
    (htypes : ∀ a ∈ f.arguments, a.type.leafName.IsName) : { f with name := .str "_" }.Named where
  name := ⟨"_", rfl, rfl⟩
  arguments := hnames
  types := htypes

theorem values_of_synthesize {f : Field} {source : TemplateSource} {s : Schema}
    {url operation : String} {item : Item}
    (hf : Formatter.plain.argumentTexts f = .ok f.argumentTexts)
    (h : synthesize source s f url operation = .ok item) : item.request.body.values = f.values := by
  rw [synthesize_eq, hf] at h
  obtain ⟨texts, htexts, h⟩ := bind_eq_ok.mp h
  obtain ⟨selection, -, h⟩ := bind_eq_ok.mp h
  obtain ⟨template, -, h⟩ := bind_eq_ok.mp h
  obtain ⟨query, -, hitem⟩ := bind_eq_ok.mp h
  cases htexts
  rw [body_of_item hitem, Field.values]

/-- The variables of a field fill in to JSON that has the arguments it declares. No type that is
read has a wrapper for its leaf. -/
theorem Field.variables_fill {f : Field} (hnames : ∀ a ∈ f.arguments, a.name.IsName)
    (htypes : ∀ a ∈ f.arguments, a.type.leafName.IsName)
    (hdistinct : (f.arguments.map (·.name.plain)).Nodup) :
    Formatter.plain.argumentTexts f = .ok f.argumentTexts ∧
    (∀ source s url operation item, synthesize source s f url operation = .ok item →
      item.request.body.values = f.values) ∧
    f.values.toList.count '#' = (openArguments f.arguments).length ∧
    (∀ values js, List.Forall₂ (fun value j => parse value = .ok j) values js →
      values.length = (openArguments f.arguments).length →
      parse (filled f.values values) = .ok (.obj (assigned .null f.arguments js)) ∧
      (assigned .null f.arguments js).map Prod.fst = f.arguments.map (·.name.plain)) ∧
    ((∃ j, parse f.values = .ok j) ↔ ∀ a ∈ f.arguments, ¬ a.IsOpen) ∧
    lexemesOf f.argumentTexts.declarations =
      f.arguments.flatMap (fun a => RootCall.declared a.parameter) ++ [.eof] ∧
    lexemesOf f.argumentTexts.call =
      f.arguments.flatMap (fun a => RootCall.given a.parameter) ++ [.eof] ∧
    ∀ a ∈ f.arguments, a.type.leafKind ≠ .nonNull →
      (a.formatted.placeholder = "#" ↔ a.formatted.type.plain.toList.getLast? = some '!') := by
  have hnamed := Field.named_of_arguments hnames htypes
  have htexts : Formatter.plain.argumentTexts f = .ok f.argumentTexts := hnamed.argumentTexts
  have hdeclarations := lexemesOf_spelling hnamed.spelling_declarations
  have hcall := lexemesOf_spelling hnamed.spelling_call
  rw [List.flatMap_map] at hdeclarations hcall
  refine ⟨htexts, fun _ _ _ _ _ => values_of_synthesize htexts, ?count, ?fill, ?unfilled,
    hdeclarations, hcall, fun a ha => Argument.placeholder_iff (htypes a ha)⟩
  case count =>
    rw [f.values_eq, toList_variablesText]
    have hlines := count_variableLines hnames unmarked_ending
    simpa using hlines
  case fill =>
    intro values js hvalues hsize
    have hkeys := map_fst_assigned Json.null f.arguments js
    rw [f.values_eq, filled_variablesText hnames hsize]
    exact ⟨parse_variablesText (isLineOf_assigned hnames hvalues) (by rwa [hkeys]), hkeys⟩
  case unfilled =>
    rw [f.values_eq, parse_variablesText_iff hnames hdistinct]
    simp [openArguments, List.filter_eq_nil_iff]

/-! ## A field with values to fill in -/

def pagesField : Field :=
  ⟨.str "pages", .list (.named (.str "Page") .object), .null,
    [⟨.str "filter", .nonNull (.named (.str "PageFilter") .inputObject), .null, .null⟩,
      ⟨.str "limit", .named (.str "Int") .scalar, .null, .null⟩,
      ⟨.str "tags", .nonNull (.list (.named (.str "String") .scalar)), .null, .null⟩]⟩

/-- A value may hold the mark itself, and blanks around it change nothing. -/
theorem variables_fill_pages :
    pagesField.values = "\x7b\n\t\"filter\": #,\n\t\"limit\": null,\n\t\"tags\": #\n\x7d" ∧
    parse (filled pagesField.values [" \x7b\"title\": \"#1\"\x7d\n", "[\"new\", \"#\"]"]) =
      .ok (.obj [("filter", .obj [("title", .str "#1")]), ("limit", .null),
        ("tags", .arr [.str "new", .str "#"])]) := by
  have hfill := (Field.variables_fill (f := pagesField) (by decide) (by decide) (by decide)).2.2.2.1
  exact ⟨by decide, (hfill _ _ (.cons rfl (.cons rfl .nil)) rfl).1⟩

end RequestBook
