import RequestBook.Proofs.Request.Selection

/-!
# Descriptions on one line

A description is put behind its field with one blank for every line break, a CR LF being one break.
Replacing every CR LF and then what is left of CR and of LF comes to this single pass, whatever the
mixture of the two. So the line of a field has one line break, at its end.
-/

namespace RequestBook

namespace Text

theorem documentLines_ne_nil (cs : List Char) : documentLines cs ≠ [] := by
  fun_cases documentLines cs <;> simp

theorem intercalate_nil_cons (sep : List Char) {lines : List (List Char)} (h : lines ≠ []) :
    sep.intercalate ([] :: lines) = sep ++ sep.intercalate lines := by
  obtain ⟨line, rest, rfl⟩ := List.exists_cons_of_ne_nil h
  rw [List.intercalate_cons_cons, List.nil_append]

theorem intercalate_cons (sep line : List Char) (c : Char) (rest : List (List Char)) :
    sep.intercalate ((c :: line) :: rest) = c :: sep.intercalate (line :: rest) := by
  cases rest with
  | nil => simp
  | cons next rest => simp [List.intercalate_cons_cons]

/-- What is flattened are the lines of the text with one blank between neighbours. -/
theorem flattenBreaks_eq_intercalate (cs : List Char) :
    flattenBreaks cs = [' '].intercalate (documentLines cs) := by
  fun_induction documentLines cs with
  | case1 => rfl
  | case2 cs ih => rw [flattenBreaks, ih, intercalate_nil_cons _ (documentLines_ne_nil cs)]; rfl
  | case3 c cs hpair hbreak ih =>
    rw [flattenBreaks, if_pos hbreak, ih, intercalate_nil_cons _ (documentLines_ne_nil cs)]
    · rfl
    · exact hpair
  | case4 c cs hpair hbreak hnil => exact absurd hnil (documentLines_ne_nil cs)
  | case5 c cs hpair hbreak line rest hlines ih =>
    rw [flattenBreaks, if_neg hbreak, ih, hlines, intercalate_cons]
    exact hpair

/-- The lines of a text hold all of its characters but the breaks. -/
theorem flatten_documentLines (cs : List Char) :
    (documentLines cs).flatten = cs.filter fun c => c ≠ '\n' ∧ c ≠ '\r' := by
  fun_induction documentLines cs with
  | case1 => rfl
  | case2 cs ih => simp [ih]
  | case3 c cs hpair hbreak ih => rcases hbreak with rfl | rfl <;> simp [ih]
  | case4 c cs hpair hbreak hnil => exact absurd hnil (documentLines_ne_nil cs)
  | case5 c cs hpair hbreak line rest hlines ih =>
    rw [hlines] at ih
    simpa [not_or.mp hbreak] using ih

end Text

open Text

/-- What stands in front of the name of a field that is selected or of an object that is left out. -/
def Field.lead (f : Field) : String := if f.type.leafKind = .object then "\t\t# " else "\t\t"

theorem descriptionSuffix_of_ne {d : String} (hd : d ≠ "") (hundefined : d ≠ "undefined") :
    descriptionSuffix (.str d) = .ok (" # " ++ String.ofList (flattenBreaks d.toList) ++ "\n") := by
  rw [descriptionSuffix_of_isText (.inr ⟨d, rfl⟩), Json.remark_str,
    if_neg (not_or.mpr ⟨hd, hundefined⟩)]

theorem Field.format_of_suffix {f : Field} {name suffix : String} (hname : f.name = .str name)
    (hkind : f.type.leafKind ∈ [Kind.scalar, .enum, .object])
    (hsuffix : descriptionSuffix f.description = .ok suffix) :
    f.format = .ok (f.lead ++ name ++ suffix) := by
  have hline : fieldLine name suffix f.type.leafKind = f.lead ++ name ++ suffix := by
    simp only [List.mem_cons, List.not_mem_nil, or_false] at hkind
    rcases hkind with hkind | hkind | hkind <;> rw [Field.lead, hkind] <;> rfl
  rw [Field.format, hsuffix, hname, ← hline]
  rfl

/-- Behind its field, a description has one blank for every line break, in one pass as by replacing
CR LF, CR and LF in turn, and all of its other characters in their order. The line of a selected
field or of an object has only the line break at its end, if the name has none. -/
theorem description_on_one_line (d : String) (hd : d ≠ "") (hundefined : d ≠ "undefined") :
    descriptionSuffix (.str d) = .ok (" # " ++ String.ofList (flattenBreaks d.toList) ++ "\n") ∧
    replaceAll ['\n'] [' '] (replaceAll ['\r'] [' '] (replaceAll ['\r', '\n'] [' '] d.toList)) =
      flattenBreaks d.toList ∧
    flattenBreaks d.toList = [' '].intercalate (documentLines d.toList) ∧
    (documentLines d.toList).flatten = d.toList.filter (fun c => c ≠ '\n' ∧ c ≠ '\r') ∧
    ∀ (f : Field) (name : String), f.name = .str name → f.description = .str d →
      (∀ c ∈ name.toList, c ≠ '\n' ∧ c ≠ '\r') →
      f.type.leafKind ∈ [Kind.scalar, .enum, .object] →
      ∃ body, f.format = .ok (body ++ "\n") ∧ (∀ c ∈ body.toList, c ≠ '\n' ∧ c ≠ '\r') ∧
        body = f.lead ++ name ++ " # " ++ String.ofList (flattenBreaks d.toList) := by
  have hsuffix := descriptionSuffix_of_ne hd hundefined
  refine ⟨hsuffix, onOneLine_eq d.toList, flattenBreaks_eq_intercalate d.toList,
    flatten_documentLines d.toList, ?_⟩
  intro f name hname hdescription hbreaks hkind
  refine ⟨_, ?_, ?_, rfl⟩
  · rw [Field.format_of_suffix hname hkind (hdescription ▸ hsuffix)]
    simp only [String.append_assoc]
  · have hlead : ∀ c ∈ f.lead.toList, c ≠ '\n' ∧ c ≠ '\r' := by
      unfold Field.lead
      split <;> simp
    have hsign : ∀ c ∈ " # ".toList, c ≠ '\n' ∧ c ≠ '\r' := by simp
    simp only [String.toList_append, String.toList_ofList, List.mem_append]
    rintro c (((hc | hc) | hc) | hc)
    · exact hlead c hc
    · exact hbreaks c hc
    · exact hsign c hc
    · exact ne_of_mem_flattenBreaks d.toList c hc

/-- A run of breaks of all three forms: five blanks stand for two CR, one CR LF and two LF. -/
theorem description_on_one_line_run :
    descriptionSuffix (.str "a\r\r\r\n\n\nb") = .ok " # a     b\n" ∧
    ∃ body, Field.format ⟨.str "id", .named (.str "ID") .scalar, .str "a\r\r\r\n\n\nb", []⟩ =
      .ok (body ++ "\n") ∧ ∀ c ∈ body.toList, c ≠ '\n' ∧ c ≠ '\r' := by
  obtain ⟨hsuffix, -, -, -, hline⟩ :=
    description_on_one_line "a\r\r\r\n\n\nb" (by decide) (by decide)
  obtain ⟨body, hformat, hbreaks, -⟩ := hline
    ⟨.str "id", .named (.str "ID") .scalar, .str "a\r\r\r\n\n\nb", []⟩ "id" rfl rfl
    (by simp) (by decide)
  exact ⟨hsuffix.trans (by cbv), body, hformat, hbreaks⟩

end RequestBook
