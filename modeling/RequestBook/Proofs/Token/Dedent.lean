import Mathlib.Data.List.TakeWhile
import RequestBook.Token.BlockText

/-!
# Dedented lines

A block string means the lines between its quotes without their common indentation and without the
blank lines at both ends. Such lines stay what they are when they are written on rows of their own,
however deep these are indented, as long as one of them is flush.
-/

namespace RequestBook

namespace BlockText

/-! ## Lines that a block string means -/

def Unbroken (line : List Char) : Prop := ∀ c ∈ line, c ≠ '\n' ∧ c ≠ '\r'

/-- A line that indentation is counted from. -/
def IsFlush (line : List Char) : Prop := isBlankLine line = false ∧ indentation line = 0

/-- Lines as the text of a block string has them: none is broken, the first and the last are not
blank, and where there are several, one of them is not indented. -/
structure Dedented (lines : List (List Char)) : Prop where
  unbroken : ∀ line ∈ lines, Unbroken line
  first : ∀ line ∈ lines.head?, isBlankLine line = false
  last : ∀ line ∈ lines.getLast?, isBlankLine line = false
  flush : 2 ≤ lines.length → ∃ line ∈ lines, IsFlush line

/-- The text of lines. -/
def ofLines (lines : List (List Char)) : List Char := ['\n'].intercalate lines

theorem ofLines_singleton (line : List Char) : ofLines [line] = line := List.intercalate_singleton

theorem ofLines_cons_cons (line next : List Char) (lines : List (List Char)) :
    ofLines (line :: next :: lines) = line ++ '\n' :: ofLines (next :: lines) := rfl

variable {line : List Char} {lines rows after : List (List Char)} {P : List Char} {n : Nat}

/-! ## Trimming -/

theorem exists_trimBlankLines (lines : List (List Char)) :
    ∃ before after, lines = before ++ trimBlankLines lines ++ after ∧
      (∀ l ∈ before, isBlankLine l = true) ∧ ∀ l ∈ after, isBlankLine l = true := by
  refine ⟨lines.takeWhile isBlankLine,
    ((lines.dropWhile isBlankLine).reverse.takeWhile isBlankLine).reverse, ?_, ?_, ?_⟩
  · have hback : trimBlankLines lines ++
        ((lines.dropWhile isBlankLine).reverse.takeWhile isBlankLine).reverse =
          lines.dropWhile isBlankLine := by
      rw [trimBlankLines, ← List.reverse_append, List.takeWhile_append_dropWhile,
        List.reverse_reverse]
    rw [List.append_assoc, hback, List.takeWhile_append_dropWhile]
  · exact fun l hl => List.mem_takeWhile_imp hl
  · exact fun l hl => List.mem_takeWhile_imp (List.mem_reverse.mp hl)

theorem dropWhile_append {α : Type} {p : α → Bool} {before rest : List α}
    (hbefore : ∀ x ∈ before, p x = true) (hrest : ∀ x ∈ rest.head?, p x = false) :
    (before ++ rest).dropWhile p = rest := by
  rw [List.dropWhile_append_of_pos hbefore]
  cases rest with
  | nil => rfl
  | cons x rest => exact List.dropWhile_cons_of_neg (by simp [hrest x rfl])

theorem trimBlankLines_of_blank (h : ∀ l ∈ lines, isBlankLine l = true) :
    trimBlankLines lines = [] := by
  rw [trimBlankLines, List.dropWhile_eq_nil_iff.mpr h]
  rfl

/-- Blank lines around lines that do not begin or end with one are trimmed. -/
theorem trimBlankLines_append (before lines : List (List Char))
    (hbefore : ∀ l ∈ before, isBlankLine l = true) (hafter : ∀ l ∈ after, isBlankLine l = true)
    (hfirst : ∀ l ∈ lines.head?, isBlankLine l = false)
    (hlast : ∀ l ∈ lines.getLast?, isBlankLine l = false) :
    trimBlankLines (before ++ (lines ++ after)) = lines := by
  cases lines with
  | nil =>
    exact trimBlankLines_of_blank fun l hl =>
      (List.mem_append.mp hl).elim (hbefore l) (hafter l)
  | cons l lines =>
    have hfront : (before ++ (l :: lines ++ after)).dropWhile isBlankLine = l :: lines ++ after :=
      dropWhile_append hbefore hfirst
    rw [trimBlankLines, hfront, List.reverse_append, dropWhile_append, List.reverse_reverse]
    · exact fun l hl => hafter l (List.mem_reverse.mp hl)
    · rwa [List.head?_reverse]

theorem head_trimBlankLines (lines : List (List Char)) :
    ∀ l ∈ (trimBlankLines lines).head?, isBlankLine l = false := by
  intro l hl
  obtain ⟨after, hafter⟩ :
      ∃ after, lines.dropWhile isBlankLine = trimBlankLines lines ++ after := by
    refine ⟨((lines.dropWhile isBlankLine).reverse.takeWhile isBlankLine).reverse, ?_⟩
    rw [trimBlankLines, ← List.reverse_append, List.takeWhile_append_dropWhile,
      List.reverse_reverse]
  have h := List.head?_dropWhile_not isBlankLine lines
  rw [hafter, List.head?_append, Option.mem_def.mp hl] at h
  exact h

theorem last_trimBlankLines (lines : List (List Char)) :
    ∀ l ∈ (trimBlankLines lines).getLast?, isBlankLine l = false := by
  intro l hl
  rw [trimBlankLines, List.getLast?_reverse] at hl
  have h := List.head?_dropWhile_not isBlankLine (lines.dropWhile isBlankLine).reverse
  rw [Option.mem_def.mp hl] at h
  exact h

theorem mem_of_mem_trimBlankLines (h : line ∈ trimBlankLines lines) : line ∈ lines := by
  obtain ⟨before, after, hsplit, -, -⟩ := exists_trimBlankLines lines
  rw [hsplit]
  exact List.mem_append_left _ (List.mem_append_right _ h)

theorem mem_trimBlankLines (h : line ∈ lines) (hblank : isBlankLine line = false) :
    line ∈ trimBlankLines lines := by
  obtain ⟨before, after, hsplit, hbefore, hafter⟩ := exists_trimBlankLines lines
  rw [hsplit, List.mem_append, List.mem_append] at h
  rcases h with (h | h) | h
  · exact absurd (hbefore line h) (by simp [hblank])
  · exact h
  · exact absurd (hafter line h) (by simp [hblank])

/-- Where several lines are left, the last of them is not the first one of all. -/
theorem exists_of_two_le_length {first : List Char} {rest : List (List Char)}
    (h : 2 ≤ (trimBlankLines (first :: rest)).length) : ∃ l ∈ rest, isBlankLine l = false := by
  obtain ⟨before, after, hsplit, -, -⟩ := exists_trimBlankLines (first :: rest)
  have hlast := last_trimBlankLines (first :: rest)
  generalize trimBlankLines (first :: rest) = trimmed at *
  match trimmed, h with
  | a :: b :: more, _ =>
    have hmem : (b :: more).getLast (by simp) ∈ b :: more := List.getLast_mem _
    refine ⟨(b :: more).getLast (by simp), ?_, hlast _ ?_⟩
    · cases before with
      | nil =>
        rw [List.nil_append, List.cons_append, List.cons.injEq] at hsplit
        rw [hsplit.2]
        exact List.mem_append_left _ hmem
      | cons x before =>
        rw [List.cons_append, List.cons_append, List.cons.injEq] at hsplit
        rw [hsplit.2]
        exact List.mem_append_left _ (List.mem_append_right _ (List.mem_cons_of_mem a hmem))
    · rw [List.getLast?_cons_cons, List.getLast?_eq_some_getLast]
      rfl

/-! ## Indentation -/

theorem isBlankLine_of_drop (h : isBlankLine (line.drop n) = false) : isBlankLine line = false := by
  by_contra hb
  rw [Bool.not_eq_false, isBlankLine, List.all_eq_true] at hb
  have hdrop : isBlankLine (line.drop n) = true :=
    List.all_eq_true.mpr fun c hc => hb c (List.mem_of_mem_drop hc)
  exact Bool.false_ne_true (h.symm.trans hdrop)

/-- Without its indentation a line is flush. -/
theorem isFlush_drop (h : isBlankLine line = false) : IsFlush (line.drop (indentation line)) := by
  induction line with
  | nil => cases h
  | cons c line ih =>
    by_cases hc : isBlank c = true
    · rw [isBlankLine, List.all_cons, hc, Bool.true_and] at h
      rw [indentation, List.takeWhile_cons_of_pos hc]
      exact ih h
    · have hnone : indentation (c :: line) = 0 := by
        rw [indentation, List.takeWhile_cons_of_neg hc, List.length_nil]
      rw [hnone]
      exact ⟨h, hnone⟩

theorem commonIndentation_eq (hmem : ∃ l ∈ lines, isBlankLine l = false ∧ indentation l = n)
    (hle : ∀ l ∈ lines, isBlankLine l = false → n ≤ indentation l) :
    commonIndentation lines = n := by
  have hmin : (((lines.filter (!isBlankLine ·)).map indentation).min?) = some n := by
    rw [List.min?_eq_some_iff]
    constructor
    · obtain ⟨l, hl, hblank, hn⟩ := hmem
      exact List.mem_map.mpr ⟨l, by simp [hl, hblank], hn⟩
    · intro m hm
      obtain ⟨l, hl, rfl⟩ := List.mem_map.mp hm
      rw [List.mem_filter, Bool.not_eq_true'] at hl
      exact hle l hl.1 hl.2
  rw [commonIndentation, hmin]
  rfl

theorem exists_commonIndentation (h : ∃ l ∈ lines, isBlankLine l = false) :
    ∃ l ∈ lines, isBlankLine l = false ∧ indentation l = commonIndentation lines := by
  obtain ⟨l, hl, hblank⟩ := h
  cases hmin : ((lines.filter (!isBlankLine ·)).map indentation).min? with
  | none =>
    rw [List.min?_eq_none_iff, List.map_eq_nil_iff, List.filter_eq_nil_iff] at hmin
    exact absurd (by simp [hblank]) (hmin l hl)
  | some m =>
    obtain ⟨hmem, -⟩ := List.min?_eq_some_iff.mp hmin
    obtain ⟨k, hk, hm⟩ := List.mem_map.mp hmem
    rw [List.mem_filter, Bool.not_eq_true'] at hk
    exact ⟨k, hk.1, hk.2, by rw [commonIndentation, hmin, hm]; rfl⟩

/-- Whatever lines a block string is written on, it means dedented ones. -/
theorem dedented_dedent (h : ∀ row ∈ rows, Unbroken row) : Dedented (dedent rows) := by
  cases rows with
  | nil => exact ⟨by simp [dedent], by simp [dedent], by simp [dedent], by simp [dedent]⟩
  | cons first rest =>
    rw [dedent]
    refine ⟨?_, head_trimBlankLines _, last_trimBlankLines _, ?_⟩
    · intro l hl
      rcases List.mem_cons.mp (mem_of_mem_trimBlankLines hl) with rfl | hl
      · exact h l List.mem_cons_self
      · obtain ⟨row, hrow, rfl⟩ := List.mem_map.mp hl
        exact fun c hc => h row (List.mem_cons_of_mem _ hrow) c (List.mem_of_mem_drop hc)
    · intro htwo
      obtain ⟨l, hl, hblank⟩ := exists_of_two_le_length htwo
      obtain ⟨row, hrow, rfl⟩ := List.mem_map.mp hl
      -- the row with the least indentation is left without any
      obtain ⟨low, hlow, hlowBlank, hindent⟩ :=
        exists_commonIndentation ⟨row, hrow, isBlankLine_of_drop hblank⟩
      have hflush := isFlush_drop hlowBlank
      rw [hindent] at hflush
      have hmem := List.mem_cons_of_mem first
        (List.mem_map_of_mem (f := List.drop (commonIndentation rest)) hlow)
      exact ⟨_, mem_trimBlankLines hmem hflush.1, hflush⟩

/-! ## Indented rows -/

/-- The rows of a text that is indented: all but the first move. -/
def pad (P : List Char) : List (List Char) → List (List Char)
  | [] => []
  | first :: rest => first :: rest.map (P ++ ·)

theorem isBlankLine_append (hP : isBlankLine P = true) (line : List Char) :
    isBlankLine (P ++ line) = isBlankLine line := by
  rw [isBlankLine, List.all_append, show P.all isBlank = true from hP, Bool.true_and, isBlankLine]

theorem indentation_append (hP : isBlankLine P = true) (line : List Char) :
    indentation (P ++ line) = P.length + indentation line := by
  rw [indentation, List.takeWhile_append_of_pos (List.all_eq_true.mp hP), List.length_append,
    indentation]

theorem blank_map_append (hP : isBlankLine P = true) (h : ∀ l ∈ after, isBlankLine l = true) :
    ∀ l ∈ after.map (P ++ ·), isBlankLine l = true := by
  intro l hl
  obtain ⟨row, hrow, rfl⟩ := List.mem_map.mp hl
  rw [isBlankLine_append hP, h row hrow]

/-- Lines on rows of their own mean themselves, if one of them is flush. -/
theorem dedent_pad_lines (h : Dedented lines) (hflush : lines ≠ [] → ∃ l ∈ lines, IsFlush l)
    (hP : isBlankLine P = true) (hafter : ∀ l ∈ after, isBlankLine l = true) :
    dedent (pad P ([] :: (lines ++ after))) = lines := by
  rw [pad, dedent]
  by_cases hlines : lines = []
  · rw [hlines, List.nil_append]
    refine trimBlankLines_of_blank fun l hl => ?_
    rcases List.mem_cons.mp hl with rfl | hl
    · rfl
    · obtain ⟨row, hrow, rfl⟩ := List.mem_map.mp hl
      have hblank := blank_map_append hP hafter row hrow
      exact List.all_eq_true.mpr fun c hc =>
        List.all_eq_true.mp hblank c (List.mem_of_mem_drop hc)
  · have hcommon : commonIndentation ((lines ++ after).map (P ++ ·)) = P.length := by
      refine commonIndentation_eq ?_ ?_
      · obtain ⟨l, hl, hblank, hindent⟩ := hflush hlines
        refine ⟨P ++ l, List.mem_map_of_mem (List.mem_append_left _ hl), ?_, ?_⟩
        · rw [isBlankLine_append hP, hblank]
        · rw [indentation_append hP, hindent, Nat.add_zero]
      · intro l hl _
        obtain ⟨row, -, rfl⟩ := List.mem_map.mp hl
        rw [indentation_append hP]
        exact Nat.le_add_right _ _
    have hdrop : ((lines ++ after).map (P ++ ·)).map (List.drop P.length) = lines ++ after := by
      rw [List.map_map]
      exact (List.map_congr_left fun l _ => List.drop_left).trans (List.map_id _)
    rw [hcommon, hdrop]
    exact trimBlankLines_append [[]] _ (by simp; rfl) hafter h.first h.last

/-- One line behind the quotes means itself. -/
theorem dedent_pad_line (hline : isBlankLine line = false) (hP : isBlankLine P = true)
    (hafter : ∀ l ∈ after, isBlankLine l = true) : dedent (pad P (line :: after)) = [line] := by
  rw [pad, dedent]
  refine trimBlankLines_append [] [line] (by simp) ?_ (by simpa) (by simpa)
  intro l hl
  obtain ⟨row, hrow, rfl⟩ := List.mem_map.mp hl
  have hblank := blank_map_append hP hafter row hrow
  exact List.all_eq_true.mpr fun c hc => List.all_eq_true.mp hblank c (List.mem_of_mem_drop hc)

end BlockText

end RequestBook
