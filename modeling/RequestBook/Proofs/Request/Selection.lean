import RequestBook.Proofs.Outcomes
import RequestBook.Proofs.Request.Call
import RequestBook.Proofs.Text.Lines

/-!
# The text of a selection

A selection is written in lines, one per field. A description follows its field behind a comment
sign, and a field that is no leaf is commented out altogether, kind and all. A description has lost
its line breaks, so whatever it says, each comment ends with its own line, and the lines spell the
leaves and no more.
-/

namespace RequestBook

open Text RootCall

/-! ## Descriptions in one line -/

namespace Text

theorem replaceAll_char (old new : Char) (cs : List Char) :
    replaceAll [old] [new] cs = cs.map fun c => if c = old then new else c := by
  induction cs with
  | nil => rfl
  | cons c cs ih =>
    rw [replaceAll] at ih ⊢
    by_cases hc : c = old
    · simp [replaceAll.go, hc, ih]
    · simp [replaceAll.go, hc, Ne.symm hc, ih]

theorem replaceAll_pair (first second : Char) (new cs : List Char) :
    replaceAll [first, second] new (first :: second :: cs) =
      new ++ replaceAll [first, second] new cs := by
  simp [replaceAll, replaceAll.go]

theorem replaceAll_cons {old : List Char} {c : Char} {cs : List Char}
    (h : old.isPrefixOf (c :: cs) = false) (new : List Char) :
    replaceAll old new (c :: cs) = c :: replaceAll old new cs := by
  simp [replaceAll, replaceAll.go, h]

/-- A line break on its own becomes a blank. -/
def blankBreak (c : Char) : Char := if c = '\r' ∨ c = '\n' then ' ' else c

/-- Behind the replacement of every CR LF, all breaks that are left stand alone. -/
theorem map_blankBreak_replaceAll (cs : List Char) :
    (replaceAll ['\r', '\n'] [' '] cs).map blankBreak = flattenBreaks cs := by
  fun_induction flattenBreaks cs with
  | case1 => rfl
  | case2 cs ih =>
    rw [replaceAll_pair, List.map_append, ih]
    rfl
  | case3 c cs hpair ih =>
    have hno : ['\r', '\n'].isPrefixOf (c :: cs) = false := by
      rw [Bool.eq_false_iff, Ne, List.isPrefixOf_iff_prefix]
      rintro ⟨rest, hrest⟩
      cases hrest
      exact hpair rest rfl rfl
    rw [replaceAll_cons hno, List.map_cons, ih]
    rfl

/-- Replacing breaks of one form after the other comes to the single pass. -/
theorem onOneLine_eq (cs : List Char) : onOneLine cs = flattenBreaks cs := by
  rw [onOneLine, replaceAll_char, replaceAll_char, List.map_map, ← map_blankBreak_replaceAll]
  refine List.map_congr_left fun c _ => ?_
  simp only [Function.comp_apply, blankBreak]
  by_cases hcr : c = '\r'
  · simp [hcr]
  · simp [hcr]

end Text

/-! ## Comments -/

theorem isCommentChar_of_mem_flattenBreaks (cs : List Char) :
    ∀ c ∈ flattenBreaks cs, isCommentChar c = true := by
  intro c hc
  simpa [isCommentChar] using ne_of_mem_flattenBreaks cs c hc

/-- What a description adds to its line: the end of the line, behind a comment at most. -/
inductive Remark : String → Prop
  | none : Remark "\n"
  | comment {body : List Char} (h : ∀ c ∈ body, isCommentChar c = true) :
      Remark (" #" ++ String.ofList body ++ "\n")

/-- A description in one line behind a comment sign; `undefined` counts as none. -/
def Json.remark : Json → String
  | .str s =>
    if s = "" ∨ s = "undefined" then "\n"
    else " # " ++ String.ofList (flattenBreaks s.toList) ++ "\n"
  | _ => "\n"

theorem Json.remark_str (s : String) : (Json.str s).remark =
    if s = "" ∨ s = "undefined" then "\n"
    else " # " ++ String.ofList (flattenBreaks s.toList) ++ "\n" := rfl

theorem descriptionSuffix_of_isText {description : Json} (h : description.IsText) :
    descriptionSuffix description = .ok description.remark := by
  rcases h with rfl | ⟨s, rfl⟩
  · rfl
  · rw [Json.remark_str]
    unfold descriptionSuffix
    split
    · next hempty =>
      have hs : s = "" := by simpa [Json.truthy] using hempty
      rw [if_pos (.inl hs)]
    · next hsome =>
      have hs : s ≠ "" := by simpa [Json.truthy] using hsome
      split
      · next hundefined => rw [if_pos (.inr (Json.str.inj hundefined))]
      · next text hundefined htext =>
        cases htext
        rw [if_neg (not_or.mpr ⟨hs, hundefined⟩), onOneLine_eq]
      · next h => exact absurd rfl (h s)

theorem remark_remark (description : Json) : Remark description.remark := by
  unfold Json.remark
  split
  · next s =>
    split
    · exact .none
    · have hbody : ∀ c ∈ ' ' :: flattenBreaks s.toList, isCommentChar c = true := by
        simpa using ⟨rfl, isCommentChar_of_mem_flattenBreaks s.toList⟩
      have hsuffix : " # " ++ String.ofList (flattenBreaks s.toList) ++ "\n" =
          " #" ++ String.ofList (' ' :: flattenBreaks s.toList) ++ "\n" := by
        rw [← String.toList_inj]
        simp
      rw [hsuffix]
      exact .comment hbody
  · exact .none

theorem Remark.spelling {suffix : String} (h : Remark suffix) {ls : List Lexeme} {cs : List Char}
    (hcs : Spelling ls cs) : Spelling ls (suffix.toList ++ cs) := by
  cases h with
  | none => exact .blank rfl hcs
  | @comment body hbody =>
    have hcomment : Spelling ls ('#' :: (body ++ '\n' :: cs)) := .comment hbody hcs
    simpa using Spelling.blank (c := ' ') rfl hcomment

theorem Remark.endsToken {suffix : String} (h : Remark suffix) (cs : List Char) :
    endsToken (suffix.toList ++ cs) = true := by
  cases h with
  | none => rfl
  | comment => simp only [String.toList_append, List.append_assoc]; rfl

/-- Behind a comment sign, a description only makes the comment longer. -/
theorem Remark.spelling_comment {suffix : String} (h : Remark suffix) {body : List Char}
    (hbody : ∀ c ∈ body, isCommentChar c = true) {ls : List Lexeme} {cs : List Char}
    (hcs : Spelling ls cs) : Spelling ls ('#' :: (body ++ (suffix.toList ++ cs))) := by
  cases h with
  | none => exact .comment hbody hcs
  | @comment body' hbody' =>
    have hboth : ∀ c ∈ body ++ ' ' :: '#' :: body', isCommentChar c = true := by
      intro c hc
      simp only [List.mem_append, List.mem_cons] at hc
      rcases hc with hc | rfl | rfl | hc
      · exact hbody c hc
      · rfl
      · rfl
      · exact hbody' c hc
    simpa using Spelling.comment hboth hcs

/-! ## Lines of a selection -/

/-- A line that stands for a field: it selects a leaf and only comments otherwise. -/
structure Field.Line (g : Field) (line : String) : Prop where
  spelling : ∀ {ls : List Lexeme} {cs : List Char}, Spelling ls cs →
    Spelling ((if g.type.leafKind.isLeaf then leafLexemes g.name.plain else []) ++ ls)
      (line.toList ++ cs)
  head : line.toList.head? = some '\t'
  comment : isCommentLine line = !g.type.leafKind.isLeaf

theorem isCommentLine_leaf {name : String} (h : isName name.toList = true) (suffix : String) :
    isCommentLine ("\t\t" ++ name ++ suffix) = false := by
  obtain ⟨c, cs, hname⟩ := List.exists_cons_of_ne_nil (spelling_word h).ne_nil
  rw [hname, isName, Bool.and_eq_true] at h
  have htab : c ≠ '\t' := ne_of_isNameStart h.1 rfl
  have hsign : c ≠ '#' := ne_of_isNameStart h.1 rfl
  simp [isCommentLine, hname, htab, hsign]

theorem isCommentLine_comment (rest : String) : isCommentLine ("\t\t# " ++ rest) = true := by
  simp [isCommentLine]

theorem line_leaf {name suffix : String} (h : isName name.toList = true) (hsuffix : Remark suffix)
    {ls : List Lexeme} {cs : List Char} (hcs : Spelling ls cs) :
    Spelling (leafLexemes name ++ ls) (("\t\t" ++ name ++ suffix).toList ++ cs) := by
  have hname : Spelling (.name name :: ls) (name.toList ++ (suffix.toList ++ cs)) :=
    .word h (hsuffix.endsToken cs) (hsuffix.spelling hcs)
  simpa [leafLexemes] using Spelling.blank (c := '\t') rfl (.blank (c := '\t') rfl hname)

theorem isCommentChar_of_isName {cs : List Char} (h : isName cs = true) :
    ∀ c ∈ cs, isCommentChar c = true := by
  intro c hc
  have hcontinue := isNameContinue_of_mem h hc
  rw [isCommentChar, Bool.and_eq_true, bne_iff_ne, bne_iff_ne]
  constructor
  · rintro rfl
    exact absurd hcontinue (by decide)
  · rintro rfl
    exact absurd hcontinue (by decide)

theorem line_comment {name suffix : String} (h : isName name.toList = true)
    (hsuffix : Remark suffix) {ls : List Lexeme} {cs : List Char} (hcs : Spelling ls cs) :
    Spelling ls (("\t\t# " ++ name ++ suffix).toList ++ cs) := by
  have hbody : ∀ c ∈ ' ' :: name.toList, isCommentChar c = true := by
    simpa using ⟨rfl, isCommentChar_of_isName h⟩
  have hcomment := hsuffix.spelling_comment hbody hcs
  simpa using Spelling.blank (c := '\t') rfl (.blank (c := '\t') rfl hcomment)

/-- The note of a kind stands on a line of its own, behind a comment sign. -/
theorem line_noted {name suffix : String} (h : isName name.toList = true) (hsuffix : Remark suffix)
    {kind : Kind} (hkind : kind.IsLine) {ls : List Lexeme} {cs : List Char} (hcs : Spelling ls cs) :
    Spelling ls (("\t\t# " ++ name ++ suffix ++ " # Type: " ++ kind.spelling ++ "\n").toList ++ cs) := by
  have hbody : ∀ c ∈ " Type: ".toList ++ kind.spelling.toList, isCommentChar c = true := by
    intro c hc
    rcases List.mem_append.mp hc with hc | hc
    · have htext : " Type: ".toList.all isCommentChar = true := by decide
      exact List.all_eq_true.mp htext c hc
    · simpa [isCommentChar, and_comm] using hkind c hc
  have hnote : Spelling ls (' ' :: '#' :: ((" Type: ".toList ++ kind.spelling.toList) ++ '\n' :: cs)) :=
    .blank rfl (.comment hbody hcs)
  simpa using line_comment h hsuffix hnote

theorem fieldLine_leaf {kind : Kind} (h : kind.isLeaf = true) (name suffix : String) :
    fieldLine name suffix kind = "\t\t" ++ name ++ suffix := by
  cases kind with
  | scalar | enum => rfl
  | _ => cases h

/-- A field that is no leaf is left out, with a note of its kind unless it is an object. -/
theorem fieldLine_of_not_leaf {kind : Kind} (h : kind.isLeaf = false) (name suffix : String) :
    fieldLine name suffix kind = "\t\t# " ++ name ++ suffix ∨
      fieldLine name suffix kind =
        "\t\t# " ++ name ++ suffix ++ " # Type: " ++ kind.spelling ++ "\n" := by
  cases kind with
  | scalar | enum => cases h
  | object => exact Or.inl rfl
  | _ => exact Or.inr rfl

theorem line_fieldLine {g : Field} (hname : g.name.IsName) (hkind : g.type.leafKind.IsLine)
    {suffix : String} (hsuffix : Remark suffix) :
    g.Line (fieldLine g.name.plain suffix g.type.leafKind) := by
  have hplain := hname.plain
  cases hleaf : g.type.leafKind.isLeaf with
  | true =>
    rw [fieldLine_leaf hleaf]
    constructor
    · intro ls cs hcs
      rw [if_pos hleaf]
      exact line_leaf hplain hsuffix hcs
    · simp
    · rw [hleaf]
      exact isCommentLine_leaf hplain suffix
  | false =>
    have hnone : (if g.type.leafKind.isLeaf then leafLexemes g.name.plain else []) = [] := by
      rw [hleaf]
      rfl
    rcases fieldLine_of_not_leaf hleaf g.name.plain suffix with hline | hline <;> rw [hline]
    · constructor
      · intro ls cs hcs
        rw [hnone]
        exact line_comment hplain hsuffix hcs
      · simp
      · rw [hleaf, String.append_assoc]
        exact isCommentLine_comment _
    · constructor
      · intro ls cs hcs
        rw [hnone]
        exact line_noted hplain hsuffix hkind hcs
      · simp
      · rw [hleaf]
        simp only [String.append_assoc]
        exact isCommentLine_comment _

/-- The line of a field whose name and description are texts. -/
def Field.line (g : Field) : String := fieldLine g.name.plain g.description.remark g.type.leafKind

theorem Field.format_of_isString {g : Field} (hname : g.name.IsString)
    (hdescription : g.description.IsText) : g.format = .ok g.line := by
  rw [Field.format, descriptionSuffix_of_isText hdescription]
  exact if_pos hname.isKey

/-- Every field of a returned type has its line. -/
theorem SchemaType.Named.lines {t : SchemaType} (h : t.Named) :
    ∃ lines, t.fields.mapM Field.format = .ok lines ∧ List.Forall₂ Field.Line t.fields lines :=
  exists_mapM_ok fun g hg => ⟨g.line,
    Field.format_of_isString (h.names g hg).isString (h.descriptions g hg),
    line_fieldLine (h.names g hg) (h.kinds g hg) (remark_remark g.description)⟩

/-! ## The selection -/

section Selection

variable {t : SchemaType} {fields : List Field} {lines : List String}

theorem spelling_lines (h : List.Forall₂ Field.Line fields lines) {ls : List Lexeme}
    {cs : List Char} (hcs : Spelling ls cs) :
    Spelling (((fields.filter (·.type.leafKind.isLeaf)).map (·.name.plain)).flatMap leafLexemes ++ ls)
      (lines.flatMap String.toList ++ cs) := by
  induction h with
  | nil => exact hcs
  | @cons g line fields lines hline _ ih =>
    have hspelling := hline.spelling ih
    rw [List.flatMap_cons, List.append_assoc, List.filter_cons]
    split at hspelling
    · next hleaf =>
      rw [if_pos hleaf, List.map_cons, List.flatMap_cons, List.append_assoc]
      exact hspelling
    · next hleaf =>
      rw [if_neg hleaf]
      exact hspelling

theorem all_isCommentLine (h : List.Forall₂ Field.Line fields lines) :
    lines.all isCommentLine = fields.all (! ·.type.leafKind.isLeaf) := by
  induction h with
  | nil => rfl
  | cons hline _ ih => rw [List.all_cons, List.all_cons, ih, hline.comment]

/-- Every line only comments exactly if there are no leaves. -/
theorem all_isCommentLine_iff (h : List.Forall₂ Field.Line t.fields lines) :
    lines.all isCommentLine = true ↔ t.leaves = [] := by
  rw [all_isCommentLine h, SchemaType.leaves, List.map_eq_nil_iff, List.filter_eq_nil_iff,
    List.all_eq_true]
  simp only [Bool.not_eq_true', Bool.not_eq_true]

theorem spelling_typename : Spelling (leafLexemes "__typename") "\t\t__typename\n".toList := by
  have hname : Spelling (leafLexemes "__typename") ("__typename".toList ++ ['\n']) :=
    .word (by decide) rfl (.blank rfl .nil)
  exact .blank rfl (.blank rfl hname)

theorem spelling_selectionText (h : List.Forall₂ Field.Line t.fields lines) :
    Spelling ((if t.leaves = [] then ["__typename"] else t.leaves).flatMap leafLexemes)
      (selectionText lines).toList := by
  by_cases hall : lines.all isCommentLine = true
  · have hleaves := (all_isCommentLine_iff h).mp hall
    have hspelling := spelling_lines h spelling_typename
    rw [← SchemaType.leaves, hleaves] at hspelling
    rw [if_pos hleaves, selectionText, if_pos hall, String.toList_join]
    simpa using hspelling
  · have hleaves := mt (all_isCommentLine_iff h).mpr hall
    have hspelling := spelling_lines h .nil
    rw [List.append_nil, List.append_nil] at hspelling
    rw [if_neg hleaves, selectionText, if_neg hall, String.toList_join]
    exact hspelling

theorem selectionText_ne_empty (h : List.Forall₂ Field.Line t.fields lines) (ht : t.fields ≠ []) :
    selectionText lines ≠ "" := by
  obtain ⟨g, fields, hfields⟩ := List.exists_cons_of_ne_nil ht
  rw [hfields, List.forall₂_cons_left_iff] at h
  obtain ⟨line, rest, hline, -, rfl⟩ := h
  have hne : line ≠ "" := by
    rintro rfl
    cases hline.head
  rw [selectionText]
  split
  · simp [String.join_cons, hne]
  · simp [String.join_cons, hne]

/-- The text of a selection spells what is selected. -/
theorem SchemaType.Named.exists_selection (h : t.Named) :
    ∃ text, Formatter.plain.selection t = .ok text ∧ (text = "" ↔ t.selected = []) ∧
      Spelling (t.selected.flatMap leafLexemes) text.toList := by
  by_cases ht : t.kind = .object ∧ !t.fields.isEmpty
  · have hfields : t.fields ≠ [] := by simpa using ht.2
    obtain ⟨lines, hlines, hall⟩ := h.lines
    have hselected : t.selected ≠ [] := by
      rw [SchemaType.selected, if_pos ht]
      split
      · simp
      · assumption
    refine ⟨selectionText lines, ?_, ?_, ?_⟩
    · rw [Formatter.selection, if_pos ht]
      change (t.fields.mapM Field.format >>= fun lines => pure (selectionText lines)) = _
      rw [hlines]
      rfl
    · exact iff_of_false (selectionText_ne_empty hall hfields) hselected
    · rw [SchemaType.selected, if_pos ht]
      exact spelling_selectionText hall
  · have hselected : t.selected = [] := by rw [SchemaType.selected, if_neg ht]
    refine ⟨"", ?_, iff_of_true rfl hselected, ?_⟩
    · rw [Formatter.selection, if_neg ht]
      rfl
    · rw [hselected]
      exact .nil

end Selection

end RequestBook
