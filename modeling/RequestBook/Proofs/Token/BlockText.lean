import Mathlib.Logic.Function.Iterate
import RequestBook.Proofs.Token.Dedent
import RequestBook.Proofs.Token.Spelling

/-!
# Block strings

The text of a block string, printed and indented to any depth, is read as that text again, but for
one case: a single line that begins with a blank and holds a boundary of Unicode text is printed on
a row of its own, where it loses its blanks.
-/

namespace RequestBook

open Reading Text

namespace BlockText

variable {line : List Char} {lines rows : List (List Char)} {P : List Char}

/-! ## Quotes inside of a row -/

/-- No quote at the front of `tail` joins the end of a row. -/
def Clear (row tail : List Char) : Prop :=
  tail.head? = some '"' → ∀ c ∈ row.getLast?, c ≠ '"' ∧ c ≠ '\\'

variable {row tail cs : List Char} {c : Char} {i : Nat}

theorem Clear.of_cons (h : Clear (c :: row) tail) : Clear row tail := by
  intro htail d hd
  cases row with
  | nil => cases hd
  | cons e row => exact h htail d (by rwa [List.getLast?_cons_cons])

theorem escapeQuotes_cons (h : c = '"' → ¬ ['"', '"'] <+: cs) :
    escapeQuotes (c :: cs) = c :: escapeQuotes cs := by
  rw [escapeQuotes]
  rintro ds rfl rfl
  exact h rfl ⟨ds, rfl⟩

/-- An escaped text that begins with a quote was no triple quote. -/
theorem quote_of_escapeQuotes {more : List Char} (h : escapeQuotes cs ++ tail = '"' :: more) :
    (cs = [] ∧ tail = '"' :: more) ∨
      ∃ ds, cs = '"' :: ds ∧ ¬ ['"', '"'] <+: ds ∧ escapeQuotes ds ++ tail = more := by
  unfold escapeQuotes at h
  split at h
  · cases h
  · next c ds hplain =>
    rw [List.cons_append, List.cons.injEq] at h
    obtain ⟨rfl, h⟩ := h
    exact .inr ⟨ds, rfl, fun ⟨more, hds⟩ => hplain more rfl hds.symm, h⟩
  · exact .inl ⟨rfl, h⟩

theorem not_prefix_of_quote (h : ¬ ['"', '"'] <+: cs) (hclear : Clear ('"' :: cs) tail) :
    ¬ ['"', '"'] <+: escapeQuotes cs ++ tail := by
  rintro ⟨more, hmore⟩
  rcases quote_of_escapeQuotes hmore.symm with ⟨rfl, htail⟩ | ⟨ds, rfl, hds, hmore⟩
  · exact (hclear (by simp [htail]) '"' rfl).1 rfl
  · rcases quote_of_escapeQuotes hmore with ⟨rfl, htail⟩ | ⟨es, rfl, -⟩
    · exact (hclear (by simp [htail]) '"' rfl).1 rfl
    · exact h ⟨es, rfl⟩

theorem not_prefix_of_backslash (hclear : Clear ('\\' :: cs) tail) :
    ¬ ['"', '"', '"'] <+: escapeQuotes cs ++ tail := by
  rintro ⟨more, hmore⟩
  rcases quote_of_escapeQuotes hmore.symm with ⟨rfl, htail⟩ | ⟨ds, rfl, hds, hmore⟩
  · exact (hclear (by simp [htail]) '\\' rfl).2 rfl
  · exact not_prefix_of_quote hds hclear.of_cons ⟨more, hmore.symm⟩

theorem blockBody_plain {line : List Char} {lines : List (List Char)}
    (hquote : c = '"' → ¬ ['"', '"'] <+: cs) (hescape : c = '\\' → ¬ ['"', '"', '"'] <+: cs)
    (hline : c ≠ '\n' ∧ c ≠ '\r') :
    blockBody i line lines (c :: cs) = blockBody (i + 1) (c :: line) lines cs := by
  rw [blockBody, if_neg (by simp [hline])]
  · rintro ds rfl rfl
    exact hquote rfl ⟨ds, rfl⟩
  · rintro ds rfl rfl
    exact hescape rfl ⟨ds, rfl⟩
  · rintro ds rfl
    exact absurd rfl hline.2

/-- An escaped row is read as itself. -/
theorem blockBody_row (hrow : Unbroken row) (hclear : Clear row tail) (i : Nat) (line : List Char)
    (lines : List (List Char)) :
    blockBody i line lines (escapeQuotes row ++ tail) =
      blockBody (i + (escapeQuotes row).length) (row.reverse ++ line) lines tail := by
  induction row using escapeQuotes.induct generalizing i line with
  | case1 cs ih =>
    have hcs : Unbroken cs := fun c hc => hrow c (by simp [hc])
    rw [escapeQuotes, List.cons_append, List.cons_append, List.cons_append, List.cons_append,
      blockBody, ih hcs hclear.of_cons.of_cons.of_cons]
    congr 1
    · simp only [List.length_cons]
      omega
    · simp
  | case2 c cs hplain ih =>
    have hcs : Unbroken cs := fun d hd => hrow d (List.mem_cons_of_mem c hd)
    have hquote : c = '"' → ¬ ['"', '"'] <+: cs := fun hc ⟨ds, hds⟩ => hplain ds hc hds.symm
    rw [escapeQuotes_cons hquote, List.cons_append, blockBody_plain, ih hcs hclear.of_cons]
    · congr 1
      · rw [List.length_cons]
        omega
      · simp
    · rintro rfl
      exact not_prefix_of_quote (hquote rfl) hclear
    · rintro rfl
      exact not_prefix_of_backslash hclear
    · exact hrow c List.mem_cons_self
  | case3 => rfl

/-! ## Rows up to the closing quotes -/

/-- What a row ends with does not join the closing quotes. -/
def Closable (row : List Char) : Prop := ∀ c ∈ row.getLast?, c ≠ '"' ∧ c ≠ '\\'

theorem blockBody_rows (hne : rows ≠ []) (hrows : ∀ row ∈ rows, Unbroken row)
    (hlast : ∀ row ∈ rows.getLast?, Closable row) (i : Nat) (lines : List (List Char))
    (more : List Char) :
    blockBody i [] lines (ofLines (rows.map escapeQuotes) ++ '"' :: '"' :: '"' :: more) =
      .lexeme (.blockString (String.ofList (ofLines (dedent (lines.reverse ++ rows)))))
        (i + (ofLines (rows.map escapeQuotes)).length + 3) := by
  induction rows generalizing i lines with
  | nil => exact absurd rfl hne
  | cons row rows ih =>
    have hrow := hrows row List.mem_cons_self
    cases rows with
    | nil =>
      have hclosable : Closable row := hlast row rfl
      rw [List.map_singleton, ofLines_singleton,
        blockBody_row hrow (fun _ => hclosable), blockBody]
      simp [ofLines]
    | cons next rows =>
      have hih := ih (by simp) (fun r hr => hrows r (List.mem_cons_of_mem row hr))
        (by rwa [List.getLast?_cons_cons] at hlast) (i + (escapeQuotes row).length + 1)
        (row :: lines)
      rw [List.map_cons] at hih
      rw [List.map_cons, List.map_cons, ofLines_cons_cons, List.append_assoc,
        blockBody_row hrow (fun h => by simp at h), List.cons_append, blockBody, if_pos (.inl rfl),
        List.append_nil, List.reverse_reverse, hih]
      · congr 1
        · simp
        · rw [List.length_append, List.length_cons]
          omega
      all_goals simp

/-! ## Lines of Unicode text -/

theorem textLines_ne_nil (h : cs ≠ []) : textLines cs ≠ [] := by
  unfold textLines
  split
  · exact absurd rfl h
  · simp
  · split
    · simp
    · split <;> simp

theorem length_textLines_cons (c : Char) (cs : List Char) : (textLines (c :: cs)).length =
    if c = '\r' ∧ cs.head? = some '\n' then (textLines cs).length
    else if isLineBoundary c then (textLines cs).length + 1 else max 1 (textLines cs).length := by
  by_cases hpair : c = '\r' ∧ cs.head? = some '\n'
  · obtain ⟨rfl, hhead⟩ := hpair
    obtain ⟨ds, rfl⟩ := List.head?_eq_some_iff.mp hhead
    rw [if_pos ⟨rfl, rfl⟩]
    rfl
  · rw [if_neg hpair, textLines]
    · split
      · rfl
      · cases htext : textLines cs with
        | nil => rfl
        | cons line more => simp
    · rintro ds rfl rfl
      exact hpair ⟨rfl, rfl⟩

theorem length_textLines_le (c : Char) (cs : List Char) :
    (textLines cs).length ≤ (textLines (c :: cs)).length := by
  rw [length_textLines_cons]
  split
  · exact Nat.le_refl _
  · split <;> omega

/-- A line break that is not at the end divides a text. -/
theorem two_le_length_textLines (row : List Char) (h : cs ≠ []) :
    2 ≤ (textLines (row ++ '\n' :: cs)).length := by
  induction row with
  | nil =>
    have hcs : (textLines cs).length ≠ 0 := fun he =>
      textLines_ne_nil h (List.length_eq_zero_iff.mp he)
    rw [List.nil_append, length_textLines_cons, if_neg (by simp), if_pos (by decide)]
    omega
  | cons c row ih => exact Nat.le_trans ih (length_textLines_le c _)

theorem head?_escapeQuotes (cs : List Char) :
    (escapeQuotes cs).head? = some '\n' ↔ cs.head? = some '\n' := by
  unfold escapeQuotes
  split <;> simp

/-- Escaping quotes makes no lines. -/
theorem length_textLines_escapeQuotes (cs : List Char) :
    (textLines (escapeQuotes cs)).length = (textLines cs).length := by
  have hplain {c : Char} (hc : c ≠ '\r') (hboundary : isLineBoundary c = false) (cs : List Char) :
      (textLines (c :: cs)).length = max 1 (textLines cs).length := by
    rw [length_textLines_cons, if_neg fun h => hc h.1, hboundary, if_neg Bool.false_ne_true]
  have hquote := hplain (c := '"') (by decide) (by decide)
  have hescape := hplain (c := '\\') (by decide) (by decide)
  induction cs using escapeQuotes.induct with
  | case1 cs ih =>
    rw [escapeQuotes, hescape, hquote, hquote, hquote, hquote, hquote, hquote, ih]
    omega
  | case2 c cs hplain ih =>
    rw [escapeQuotes_cons fun hc ⟨ds, hds⟩ => hplain ds hc hds.symm, length_textLines_cons,
      length_textLines_cons, ih]
    simp only [head?_escapeQuotes]
  | case3 => rfl

/-! ## Printed rows -/

/-- A text of one line that does not begin with a blank, or that no boundary divides. -/
def Steady (text : String) : Prop :=
  '\n' ∈ text.toList ∨ (∀ c ∈ text.toList.head?, isBlank c = false) ∨
    (textLines text.toList).length ≤ 1

instance (text : String) : Decidable (Steady text) :=
  inferInstanceAs (Decidable (_ ∨ _ ∨ _))

theorem exists_print (text : String) : ∃ before after : Bool,
    print text = "\"\"\"" ++ (if before then "\n" else "") ++
      String.ofList (escapeQuotes text.toList) ++ (if after then "\n" else "") ++ "\"\"\"" ∧
    (after = false → Closable text.toList) ∧
    (2 ≤ (textLines text.toList).length → before = true) ∧
    (before = true → (textLines text.toList).length ≤ 1 →
      ∀ c ∈ text.toList.head?, isBlank c = false) := by
  refine ⟨_, _, rfl, ?_, ?_, ?_⟩
  · intro h
    simp only [Bool.or_eq_false_iff, Bool.and_eq_false_iff, Bool.not_eq_false'] at h
    obtain ⟨⟨-, htripled⟩, hquote, hescape⟩ := h
    rw [htripled] at hquote
    intro c hc
    rw [Option.mem_def] at hc
    rw [hc] at hquote hescape
    simpa using And.intro hquote hescape
  · intro htwo
    rw [← length_textLines_escapeQuotes] at htwo
    split
    · next hlines => simp [hlines] at htwo
    · have hsingle : ((textLines (escapeQuotes text.toList)).length == 1) = false := by
        rw [beq_eq_false_iff_ne]
        omega
      simp [hsingle]
  · intro h hone
    rw [← length_textLines_escapeQuotes] at hone
    have hblank : (text.toList.head?.map isBlank).getD false = false := by
      split at h
      · simp only [List.length_singleton, beq_self_eq_true, Bool.not_true, Bool.false_and,
          Bool.or_false, Bool.true_and, Bool.and_eq_true, Bool.not_eq_true'] at h
        exact h.2
      · next hlines =>
        have hsingle : ((textLines (escapeQuotes text.toList)).length == 1) = true := by
          have hne : (textLines (escapeQuotes text.toList)).length ≠ 0 := fun he =>
            hlines (List.length_eq_zero_iff.mp he)
          rw [beq_iff_eq]
          omega
        simp only [hsingle, Bool.not_true, Bool.false_and, Bool.or_false, Bool.true_and,
          Bool.and_eq_true, Bool.not_eq_true'] at h
        exact h.2
    intro c hc
    rw [Option.mem_def.mp hc] at hblank
    exact hblank

/-! ## Texts of rows -/

theorem ofLines_cons (row : List Char) (h : rows ≠ []) :
    ofLines (row :: rows) = row ++ '\n' :: ofLines rows := by
  obtain ⟨next, rows, rfl⟩ := List.exists_cons_of_ne_nil h
  exact ofLines_cons_cons row next rows

theorem ofLines_concat (h : rows ≠ []) (row : List Char) :
    ofLines (rows ++ [row]) = ofLines rows ++ '\n' :: row := by
  induction rows with
  | nil => exact absurd rfl h
  | cons first rows ih =>
    by_cases hrows : rows = []
    · rw [hrows, List.singleton_append, ofLines_cons_cons, ofLines_singleton, ofLines_singleton]
    · rw [List.cons_append, ofLines_cons first (by simp), ih hrows, ofLines_cons first hrows,
        List.append_assoc, List.cons_append]

theorem escapeQuotes_row (row cs : List Char) :
    escapeQuotes (row ++ '\n' :: cs) = escapeQuotes row ++ '\n' :: escapeQuotes cs := by
  induction row using escapeQuotes.induct with
  | case1 row ih => simp only [List.cons_append, escapeQuotes, ih]
  | case2 c row hplain ih =>
    have hquote : c = '"' → ¬ ['"', '"'] <+: row := fun hc ⟨ds, hds⟩ => hplain ds hc hds.symm
    have hquote' : c = '"' → ¬ ['"', '"'] <+: row ++ '\n' :: cs := by
      rintro rfl ⟨ds, hds⟩
      match row with
      | [] => simp at hds
      | [a] => simp at hds
      | a :: b :: more =>
        simp only [List.cons_append, List.nil_append, List.cons.injEq] at hds
        exact hplain more rfl (by rw [← hds.1, ← hds.2.1])
    rw [List.cons_append, escapeQuotes_cons hquote', ih, escapeQuotes_cons hquote, List.cons_append]
  | case3 => exact escapeQuotes_cons (by simp)

theorem escapeQuotes_ofLines (rows : List (List Char)) :
    escapeQuotes (ofLines rows) = ofLines (rows.map escapeQuotes) := by
  induction rows with
  | nil => rfl
  | cons row rows ih =>
    by_cases hrows : rows = []
    · rw [hrows, List.map_singleton, ofLines_singleton, ofLines_singleton]
    · rw [ofLines_cons row hrows, escapeQuotes_row, ih, List.map_cons,
        ofLines_cons _ (by simpa using hrows)]

theorem escapeQuotes_append (hP : isBlankLine P = true) (row : List Char) :
    escapeQuotes (P ++ row) = P ++ escapeQuotes row := by
  induction P with
  | nil => rfl
  | cons c P ih =>
    rw [isBlankLine, List.all_cons, Bool.and_eq_true] at hP
    have hc : c ≠ '"' := by
      rintro rfl
      exact absurd hP.1 (by decide)
    rw [List.cons_append, escapeQuotes_cons (fun h => absurd h hc), ih hP.2, List.cons_append]

theorem map_escapeQuotes_pad (hP : isBlankLine P = true) (rows : List (List Char)) :
    (pad P rows).map escapeQuotes = pad P (rows.map escapeQuotes) := by
  cases rows with
  | nil => rfl
  | cons row rows =>
    rw [pad, List.map_cons, List.map_map, List.map_cons, pad, List.map_map]
    congr 1
    exact List.map_congr_left fun r _ => escapeQuotes_append hP r

/-! ## Indented texts -/

theorem ofLines_map_append (P : List Char) (h : rows ≠ []) :
    ofLines (rows.map (P ++ ·)) = P ++ ofLines (pad P rows) := by
  cases rows with
  | nil => exact absurd rfl h
  | cons row rows =>
    by_cases hrows : rows = []
    · rw [hrows, pad, List.map_nil, List.map_singleton, ofLines_singleton, ofLines_singleton]
    · have hmap : rows.map (P ++ ·) ≠ [] := by simpa using hrows
      rw [List.map_cons, ofLines_cons _ hmap, pad, ofLines_cons _ hmap, List.append_assoc]

theorem indentChars_ofLines (h : ∀ row ∈ rows, ∀ c ∈ row, c ≠ '\n') :
    indentChars (ofLines rows) = ofLines (pad [' ', ' '] rows) := by
  induction rows with
  | nil => rfl
  | cons row rows ih =>
    have hrow := indentChars_line (h row List.mem_cons_self)
    by_cases hrows : rows = []
    · rw [hrows, pad, List.map_nil, ofLines_singleton, hrow]
    · have hmap : rows.map ([' ', ' '] ++ ·) ≠ [] := by simpa using hrows
      rw [ofLines_cons row hrows, indentChars_append, hrow, indentChars, if_pos rfl,
        ih fun r hr => h r (List.mem_cons_of_mem row hr), pad, ofLines_cons row hmap,
        ofLines_map_append _ hrows]
      rfl

theorem pad_pad (P Q : List Char) (rows : List (List Char)) :
    pad P (pad Q rows) = pad (P ++ Q) rows := by
  cases rows with
  | nil => rfl
  | cons row rows => simp [pad]

theorem forall_mem_pad {p : Char → Prop} (hP : ∀ c ∈ P, p c) (h : ∀ row ∈ rows, ∀ c ∈ row, p c) :
    ∀ row ∈ pad P rows, ∀ c ∈ row, p c := by
  cases rows with
  | nil => exact h
  | cons first rows =>
    intro row hrow c hc
    rcases List.mem_cons.mp hrow with rfl | hrow
    · exact h row List.mem_cons_self c hc
    · obtain ⟨r, hr, rfl⟩ := List.mem_map.mp hrow
      rcases List.mem_append.mp hc with hc | hc
      · exact hP c hc
      · exact h r (List.mem_cons_of_mem first hr) c hc

/-- Indented to any depth, the rows between two other texts of a line are padded. -/
theorem iterate_indentChars {a b : List Char} (ha : ∀ c ∈ a, c ≠ '\n') (hb : ∀ c ∈ b, c ≠ '\n')
    (h : ∀ row ∈ rows, ∀ c ∈ row, c ≠ '\n') (k : Nat) :
    indentChars^[k] (a ++ ofLines rows ++ b) =
      a ++ ofLines (pad (List.replicate (2 * k) ' ') rows) ++ b := by
  induction k generalizing rows with
  | zero =>
    cases rows with
    | nil => rfl
    | cons row rows => simp [pad]
  | succ k ih =>
    have hpad : ∀ row ∈ pad [' ', ' '] rows, ∀ c ∈ row, c ≠ '\n' := forall_mem_pad (by simp) h
    have hblanks : List.replicate (2 * k) ' ' ++ [' ', ' '] = List.replicate (2 * (k + 1)) ' ' :=
      List.replicate_append_replicate (m := 2)
    rw [Function.iterate_succ_apply, indentChars_append, indentChars_append, indentChars_line ha,
      indentChars_line hb, indentChars_ofLines h, ih hpad, pad_pad, hblanks]

/-! ## Printed block strings -/

theorem exists_ofLines_eq_append (hrow : row ∈ lines.getLast?) :
    ∃ pre, ofLines lines = pre ++ row := by
  induction lines with
  | nil => cases hrow
  | cons first lines ih =>
    by_cases hlines : lines = []
    · rw [hlines] at hrow ⊢
      obtain rfl := Option.some.inj hrow
      exact ⟨[], ofLines_singleton _⟩
    · obtain ⟨next, more, rfl⟩ := List.exists_cons_of_ne_nil hlines
      rw [List.getLast?_cons_cons] at hrow
      obtain ⟨pre, hpre⟩ := ih hrow
      exact ⟨first ++ '\n' :: pre, by rw [ofLines_cons_cons, hpre, List.append_assoc]; rfl⟩

/-- The last row ends as the text does. -/
theorem closable_last (h : Closable (ofLines lines)) : ∀ row ∈ lines.getLast?, Closable row := by
  intro row hrow c hc
  obtain ⟨pre, hpre⟩ := exists_ofLines_eq_append hrow
  refine h c ?_
  rw [hpre, List.getLast?_append, Option.mem_def.mp hc]
  rfl

theorem closable_append (hP : isBlankLine P = true) (h : Closable row) : Closable (P ++ row) := by
  intro c hc
  rw [List.getLast?_append] at hc
  cases hrow : row.getLast? with
  | some d =>
    rw [hrow] at hc
    exact h c (hrow ▸ hc)
  | none =>
    rw [hrow] at hc
    have hblank := List.all_eq_true.mp hP c (List.mem_of_getLast? hc)
    constructor
    all_goals
      rintro rfl
      exact absurd hblank (by decide)

/-- The break that a text has behind it, as a row. -/
def lastRow (after : Bool) : List (List Char) := if after then [[]] else []

theorem ofLines_lastRow (h : rows ≠ []) (after : Bool) :
    ofLines (rows ++ lastRow after) = ofLines rows ++ (if after then "\n" else "").toList := by
  cases after with
  | false => simp [lastRow]
  | true => exact ofLines_concat h []

theorem blank_lastRow (after : Bool) : ∀ l ∈ lastRow after, isBlankLine l = true := by
  cases after <;> simp [lastRow, isBlankLine]

theorem unbroken_lastRow (after : Bool) : ∀ l ∈ lastRow after, Unbroken l := by
  cases after <;> simp [lastRow, Unbroken]

theorem last_lastRow {after : Bool} (h : after = false → ∀ row ∈ rows.getLast?, Closable row) :
    ∀ row ∈ (rows ++ lastRow after).getLast?, Closable row := by
  cases after with
  | false => simpa [lastRow] using h rfl
  | true => simp [lastRow, Closable]

theorem map_lastRow (after : Bool) : (lastRow after).map escapeQuotes = lastRow after := by
  cases after <;> rfl

/-- The rows that lines are printed on. -/
structure Rows (lines rows : List (List Char)) : Prop where
  ne_nil : rows ≠ []
  unbroken : ∀ row ∈ rows, Unbroken row
  last : ∀ row ∈ rows.getLast?, Closable row
  means : ∀ P, isBlankLine P = true → dedent (pad P rows) = lines

theorem isFlush_of_head (h : isBlankLine line = false)
    (hhead : ∀ c ∈ line.head?, isBlank c = false) : IsFlush line := by
  refine ⟨h, ?_⟩
  cases line with
  | nil => rfl
  | cons c line =>
    rw [indentation, List.takeWhile_cons_of_neg (by simp [hhead c rfl])]
    rfl

/-- A text of several lines is divided. -/
theorem Dedented.two_le_length_textLines {next : List Char}
    (h : Dedented (line :: next :: lines)) :
    2 ≤ (textLines (ofLines (line :: next :: lines))).length := by
  rw [ofLines_cons_cons]
  refine BlockText.two_le_length_textLines line fun hnil => ?_
  obtain ⟨last, hlast⟩ : ∃ last, (next :: lines).getLast? = some last :=
    ⟨_, List.getLast?_eq_some_getLast (by simp)⟩
  obtain ⟨pre, hpre⟩ := exists_ofLines_eq_append hlast
  rw [hnil, eq_comm, List.append_eq_nil_iff] at hpre
  have hblank := h.last last (by rwa [List.getLast?_cons_cons])
  rw [hpre.2] at hblank
  cases hblank

/-- Lines on rows of their own have a flush one, if the text is steady. -/
theorem Dedented.exists_flush {text : String} (h : Dedented lines)
    (htext : text.toList = ofLines lines) (hsteady : Steady text) (hne : lines ≠ [])
    (hhead : (textLines text.toList).length ≤ 1 → ∀ c ∈ text.toList.head?, isBlank c = false) :
    ∃ l ∈ lines, IsFlush l := by
  match lines with
  | [] => exact absurd rfl hne
  | line :: next :: more => exact h.flush (by simp)
  | [line] =>
    rw [ofLines_singleton] at htext
    have hfirst : ∀ c ∈ line.head?, isBlank c = false := by
      rw [Steady, htext] at hsteady
      rw [htext] at hhead
      rcases hsteady with hline | hblank | hone
      · exact absurd rfl (h.unbroken line List.mem_cons_self _ hline).1
      · exact hblank
      · exact hhead hone
    exact ⟨line, List.mem_cons_self, isFlush_of_head (h.first line rfl) hfirst⟩

theorem exists_rows {text : String} (h : Dedented lines) (htext : text.toList = ofLines lines)
    (hsteady : Steady text) :
    ∃ rows, Rows lines rows ∧ (print text).toList =
      ['"', '"', '"'] ++ ofLines (rows.map escapeQuotes) ++ ['"', '"', '"'] := by
  by_cases hlines : lines = []
  · obtain rfl : text = "" := String.toList_eq_nil_iff.mp (by rw [htext, hlines]; rfl)
    refine ⟨[[]], ⟨by simp, by simp [Unbroken], by simp [Closable], fun P _ => ?_⟩, by decide⟩
    rw [hlines]
    rfl
  obtain ⟨before, after, hprint, hafter, hbefore, hhead⟩ := exists_print text
  have hlast : after = false → ∀ row ∈ lines.getLast?, Closable row :=
    fun ha => closable_last (htext ▸ hafter ha)
  have hescaped : ofLines (lines.map escapeQuotes ++ lastRow after) =
      escapeQuotes text.toList ++ (if after then "\n" else "").toList := by
    rw [ofLines_lastRow (by simpa using hlines), htext, escapeQuotes_ofLines]
  cases before with
  | true =>
    have hflush := h.exists_flush htext hsteady hlines (hhead rfl)
    refine ⟨[] :: lines ++ lastRow after, ⟨by simp, ?_, ?_, ?_⟩, ?_⟩
    · intro row hrow
      rcases List.mem_append.mp hrow with hrow | hrow
      · rcases List.mem_cons.mp hrow with rfl | hrow
        · simp [Unbroken]
        · exact h.unbroken row hrow
      · exact unbroken_lastRow after row hrow
    · refine last_lastRow fun ha => ?_
      obtain ⟨first, more, rfl⟩ := List.exists_cons_of_ne_nil hlines
      rw [List.getLast?_cons_cons]
      exact hlast ha
    · exact fun P hP => dedent_pad_lines h (fun _ => hflush) hP (blank_lastRow after)
    · have hrows : ofLines (([] :: lines ++ lastRow after).map escapeQuotes) =
          '\n' :: (escapeQuotes text.toList ++ (if after then "\n" else "").toList) := by
        rw [← hescaped, List.map_append, map_lastRow, List.map_cons, List.cons_append]
        exact ofLines_cons [] (by simp [hlines])
      rw [hprint, hrows]
      simp
  | false =>
    obtain ⟨line, rfl⟩ : ∃ line, lines = [line] := by
      match lines with
      | [] => exact absurd rfl hlines
      | [line] => exact ⟨line, rfl⟩
      | line :: next :: more =>
        have htwo := h.two_le_length_textLines
        rw [← htext] at htwo
        exact absurd (hbefore htwo) (by simp)
    refine ⟨[line] ++ lastRow after, ⟨by simp, ?_, last_lastRow hlast, ?_⟩, ?_⟩
    · intro row hrow
      rcases List.mem_append.mp hrow with hrow | hrow
      · exact h.unbroken row hrow
      · exact unbroken_lastRow after row hrow
    · exact fun P hP => dedent_pad_line (h.first line rfl) hP (blank_lastRow after)
    · rw [hprint, List.map_append, map_lastRow, hescaped]
      simp

theorem last_pad (hP : isBlankLine P = true) (h : ∀ row ∈ rows.getLast?, Closable row) :
    ∀ row ∈ (pad P rows).getLast?, Closable row := by
  match rows with
  | [] => exact h
  | [row] => exact h
  | row :: next :: rows =>
    intro r hr
    rw [pad, List.map_cons, List.getLast?_cons_cons, ← List.map_cons, List.getLast?_map] at hr
    obtain ⟨last, hlast, rfl⟩ := Option.map_eq_some_iff.mp hr
    exact closable_append hP (h last (by rwa [List.getLast?_cons_cons]))

theorem mem_escapeQuotes (h : c ∈ escapeQuotes row) : c ∈ row ∨ c = '\\' := by
  induction row using escapeQuotes.induct with
  | case1 row ih =>
    simp only [escapeQuotes, List.mem_cons] at h ⊢
    tauto
  | case2 d row hplain ih =>
    rw [escapeQuotes_cons fun hc ⟨ds, hds⟩ => hplain ds hc hds.symm, List.mem_cons] at h
    rw [List.mem_cons]
    tauto
  | case3 => cases h

/-- The text of a block string is written by its printed form. -/
theorem written_print {text : String} (h : Dedented lines) (htext : text.toList = ofLines lines)
    (hsteady : Steady text) : Written (.blockString text) (print text).toList := by
  obtain ⟨rows, hrows, hprint⟩ := exists_rows h htext hsteady
  intro k rest _
  have hP : isBlankLine (List.replicate (2 * k) ' ') = true := by simp [isBlankLine, isBlank]
  have hunbroken : ∀ row ∈ pad (List.replicate (2 * k) ' ') rows, Unbroken row :=
    forall_mem_pad (by simp) hrows.unbroken
  have hescaped : ∀ row ∈ rows.map escapeQuotes, ∀ c ∈ row, c ≠ '\n' := by
    intro row hrow c hc
    obtain ⟨r, hr, rfl⟩ := List.mem_map.mp hrow
    rcases mem_escapeQuotes hc with hc | rfl
    · exact (hrows.unbroken r hr c hc).1
    · decide
  have hne : pad (List.replicate (2 * k) ' ') rows ≠ [] := by
    obtain ⟨first, more, rfl⟩ := List.exists_cons_of_ne_nil hrows.ne_nil
    simp [pad]
  have hbody := blockBody_rows hne hunbroken (last_pad hP hrows.last) 3 [] rest
  rw [List.reverse_nil, List.nil_append, hrows.means _ hP, ← htext, String.ofList_toList] at hbody
  generalize hbetween : ofLines ((pad (List.replicate (2 * k) ' ') rows).map escapeQuotes) = between
    at hbody
  refine ⟨'"', '"' :: '"' :: (between ++ ['"', '"', '"']), ?_, rfl, by decide, ?_⟩
  · rw [hprint, iterate_indentChars (by simp) (by simp) hescaped, ← map_escapeQuotes_pad hP,
      hbetween]
    rfl
  · have hof : of '"' ('"' :: '"' :: (between ++ ['"', '"', '"']) ++ rest) =
        blockBody 3 [] [] (between ++ ['"', '"', '"'] ++ rest) := rfl
    have hsize : ('"' :: '"' :: (between ++ ['"', '"', '"'])).length + 1 =
        3 + between.length + 3 := by
      simp only [List.length_cons, List.length_append, List.length_nil]
      omega
    rw [hof, List.append_assoc, hsize]
    exact hbody

/-! ## Block strings that are read -/

/-- Whatever a block string is read from, its text is that of dedented lines. -/
theorem blockBody_dedented {l : Lexeme} {size : Nat} (hline : Unbroken line)
    (hlines : ∀ row ∈ lines, Unbroken row) (h : blockBody i line lines cs = .lexeme l size) :
    ∃ text meant, l = .blockString text ∧ Dedented meant ∧ text.toList = ofLines meant := by
  have hclosed {line : List Char} {lines : List (List Char)} (hline : Unbroken line)
      (hlines : ∀ row ∈ lines, Unbroken row) : ∀ row ∈ line.reverse :: lines, Unbroken row := by
    intro row hrow
    rcases List.mem_cons.mp hrow with rfl | hrow
    · exact fun c hc => hline c (List.mem_reverse.mp hc)
    · exact hlines row hrow
  induction i, line, lines, cs using blockBody.induct with
  | case1 i line lines => rw [blockBody] at h; cases h
  | case2 i line lines cs =>
    rw [blockBody] at h
    cases h
    refine ⟨_, _, rfl, dedented_dedent fun row hrow => ?_, String.toList_ofList⟩
    exact hclosed hline hlines row (List.mem_reverse.mp hrow)
  | case3 i line lines cs ih =>
    rw [blockBody] at h
    exact ih (by simpa [Unbroken] using hline) hlines h
  | case4 i line lines cs ih =>
    rw [blockBody] at h
    exact ih (by simp [Unbroken]) (hclosed hline hlines) h
  | case5 i line lines c cs hquote hescape hpair hbreak ih =>
    rw [blockBody, if_pos hbreak] at h
    · exact ih (by simp [Unbroken]) (hclosed hline hlines) h
    all_goals assumption
  | case6 i line lines c cs hquote hescape hpair hbreak ih =>
    rw [blockBody, if_neg hbreak] at h
    · refine ih (fun d hd => ?_) hlines h
      rcases List.mem_cons.mp hd with rfl | hd
      · exact not_or.mp hbreak
      · exact hline d hd
    all_goals assumption

end BlockText

end RequestBook
