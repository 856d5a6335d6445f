import Mathlib.Logic.Function.Iterate
import RequestBook.Proofs.Text.Layout
import RequestBook.Token.Lexer

/-!
# Spellings of tokens

A text spells a list of lexemes if it is put together from punctuators, names and literals, from
what is ignored between them, and from comments that end with their line. The lexer reads such a
text as exactly those lexemes, wherever in a larger text it stands and however deep it is indented.
-/

namespace RequestBook

/-- Whether a name, a number or a string may end in front of a text. -/
def endsToken : List Char → Bool
  | [] => true
  | c :: _ => !isNameContinue c && c != '.' && c != '"'

/-- Read as one lexeme in front of all that ends a token, however deep it is indented. -/
def Written (l : Lexeme) (body : List Char) : Prop :=
  ∀ k rest, endsToken rest = true → ∃ c cs, Text.indentChars^[k] body = c :: cs ∧
    Reading.isIgnored c = false ∧ c ≠ '#' ∧ Reading.of c (cs ++ rest) = .lexeme l (cs.length + 1)

inductive Spelling : List Lexeme → List Char → Prop
  | nil : Spelling [] []
  | blank {c : Char} {ls : List Lexeme} {cs : List Char} (hc : Reading.isIgnored c = true)
      (h : Spelling ls cs) : Spelling ls (c :: cs)
  | comment {body : List Char} {ls : List Lexeme} {cs : List Char}
      (hb : ∀ c ∈ body, isCommentChar c = true) (h : Spelling ls cs) :
      Spelling ls ('#' :: (body ++ '\n' :: cs))
  | mark {c : Char} {p : Punctuator} {ls : List Lexeme} {cs : List Char}
      (hp : Punctuator.ofChar? c = some p) (h : Spelling ls cs) :
      Spelling (.punctuator p :: ls) (c :: cs)
  | word {w : String} {ls : List Lexeme} {cs : List Char} (hw : isName w.toList = true)
      (hcs : endsToken cs = true) (h : Spelling ls cs) :
      Spelling (.name w :: ls) (w.toList ++ cs)
  | spread {ls : List Lexeme} {cs : List Char} (h : Spelling ls cs) :
      Spelling (.punctuator .spread :: ls) ('.' :: '.' :: '.' :: cs)
  | literal {l : Lexeme} {body : List Char} {ls : List Lexeme} {cs : List Char}
      (hl : Written l body) (hcs : endsToken cs = true) (h : Spelling ls cs) :
      Spelling (l :: ls) (body ++ cs)

/-- The lexemes of a text, wherever they stand. -/
def lexemesOf (text : String) : List Lexeme := (tokens text).map Token.lexeme

/-! ## Characters -/

theorem ne_of_isNameStart {c d : Char} (hc : isNameStart c = true) (hd : isNameStart d = false) :
    c ≠ d := by
  rintro rfl
  exact Bool.false_ne_true (hd.symm.trans hc)

theorem ofChar?_of_isNameStart {c : Char} (hc : isNameStart c = true) :
    Punctuator.ofChar? c = none := by
  unfold Punctuator.ofChar?
  split
  all_goals first
    | rfl
    | exact absurd hc (by decide)

theorem not_isDigit_of_isNameStart {c : Char} (hc : isNameStart c = true) : c.isDigit = false := by
  by_contra hd
  simp only [Char.isDigit, Bool.not_eq_false, Bool.and_eq_true, decide_eq_true_eq, ge_iff_le,
    UInt32.le_iff_toNat_le] at hd
  change 48 ≤ c.val.toNat ∧ c.val.toNat ≤ 57 at hd
  have hc' : (c.isUpper || c.isLower || c == '_') = true := hc
  rw [Bool.or_eq_true, Bool.or_eq_true, beq_iff_eq] at hc'
  rcases hc' with (hu | hl) | rfl
  · have hu' : 'A'.val.toNat ≤ c.val.toNat ∧ c.val.toNat ≤ 'Z'.val.toNat := of_decide_eq_true hu
    change 65 ≤ c.val.toNat ∧ _ at hu'
    omega
  · have hl' : (decide ('a'.val.toNat ≤ c.val.toNat) && decide (c.val.toNat ≤ 'z'.val.toNat)) = true :=
      hl
    rw [Bool.and_eq_true, decide_eq_true_eq] at hl'
    change 97 ≤ c.val.toNat ∧ _ at hl'
    omega
  · exact absurd hd (by decide)

theorem not_isIgnored_of_isNameStart {c : Char} (hc : isNameStart c = true) :
    Reading.isIgnored c = false := by
  have h (d : Char) (hd : isNameStart d = false) : (c == d) = false :=
    beq_eq_false_iff_ne.mpr (ne_of_isNameStart hc hd)
  simp only [Reading.isIgnored, h ' ' rfl, h '\t' rfl, h ',' rfl, h '\n' rfl, h '\r' rfl,
    h '\ufeff' rfl, Bool.or_false]

/-- A punctuator separates nothing and opens no comment. -/
theorem not_isIgnored_of_ofChar? {c : Char} {p : Punctuator} (hp : Punctuator.ofChar? c = some p) :
    Reading.isIgnored c = false ∧ c ≠ '#' := by
  unfold Punctuator.ofChar? at hp
  split at hp
  all_goals first
    | exact ⟨by decide, by decide⟩
    | cases hp

/-! ## The lexer on a spelling -/

theorem tokensFrom_skip (pre cs : List Char) (i : Nat) :
    tokensFrom pre.length i (pre ++ cs) = tokensFrom 0 (i + pre.length) cs := by
  induction pre generalizing i with
  | nil => rfl
  | cons c pre ih =>
    rw [List.length_cons, List.cons_append, tokensFrom, ih]
    congr 1
    omega

theorem tokensFrom_blank {c : Char} (hc : Reading.isIgnored c = true) (cs : List Char) (i : Nat) :
    tokensFrom 0 i (c :: cs) = tokensFrom 0 (i + 1) cs := by
  rw [tokensFrom, if_pos hc]

theorem takeWhile_append_of_head {p : Char → Bool} {pre cs : List Char} (hpre : ∀ c ∈ pre, p c = true)
    (hcs : ∀ c ∈ cs.head?, p c = false) : (pre ++ cs).takeWhile p = pre := by
  rw [List.takeWhile_append_of_pos hpre]
  cases cs with
  | nil => rw [List.takeWhile_nil, List.append_nil]
  | cons c cs => rw [List.takeWhile_cons_of_neg (by simp [hcs c rfl]), List.append_nil]

theorem tokensFrom_comment {body : List Char} (hb : ∀ c ∈ body, isCommentChar c = true)
    (cs : List Char) (i : Nat) :
    ∃ j, tokensFrom 0 i ('#' :: (body ++ '\n' :: cs)) = tokensFrom 0 j cs := by
  have htake : (body ++ '\n' :: cs).takeWhile isCommentChar = body :=
    takeWhile_append_of_head hb (by simp; rfl)
  refine ⟨i + 1 + body.length + 1, ?_⟩
  rw [tokensFrom, if_neg (by decide), if_pos rfl, htake, tokensFrom_skip,
    tokensFrom_blank (by decide)]

theorem tokensFrom_mark {c : Char} {p : Punctuator} (hp : Punctuator.ofChar? c = some p)
    (cs : List Char) (i : Nat) :
    tokensFrom 0 i (c :: cs) = ⟨.punctuator p, some i⟩ :: tokensFrom 0 (i + 1) cs := by
  obtain ⟨hi, hc⟩ := not_isIgnored_of_ofChar? hp
  have hof : Reading.of c cs = .lexeme (.punctuator p) 1 := by rw [Reading.of, hp]
  rw [tokensFrom, if_neg (by simp [hi]), if_neg hc, hof]

theorem reading_of_isNameStart {c : Char} (hc : isNameStart c = true) (cs : List Char) :
    Reading.of c cs = .lexeme (.name (String.ofList (c :: cs.takeWhile isNameContinue)))
      (cs.takeWhile isNameContinue).length.succ := by
  have hpoint : c ≠ '.' := ne_of_isNameStart hc rfl
  have hquote : c ≠ '"' := ne_of_isNameStart hc rfl
  have hminus : c ≠ '-' := ne_of_isNameStart hc rfl
  rw [Reading.of, ofChar?_of_isNameStart hc]
  simp [hpoint, hquote, hminus, not_isDigit_of_isNameStart hc, hc]

theorem tokensFrom_word {w : String} (hw : isName w.toList = true) {cs : List Char}
    (hcs : endsToken cs = true) (i : Nat) :
    ∃ j, tokensFrom 0 i (w.toList ++ cs) = ⟨.name w, some i⟩ :: tokensFrom 0 j cs := by
  obtain ⟨c, rest, hl⟩ : ∃ c rest, w.toList = c :: rest := by
    cases hl : w.toList with
    | nil => rw [hl] at hw; cases hw
    | cons c rest => exact ⟨c, rest, rfl⟩
  rw [hl, isName, Bool.and_eq_true, List.all_eq_true] at hw
  have htake : (rest ++ cs).takeWhile isNameContinue = rest := by
    refine takeWhile_append_of_head hw.2 ?_
    cases cs with
    | nil => simp
    | cons d cs =>
      simp only [endsToken, Bool.and_eq_true, Bool.not_eq_true'] at hcs
      simpa using hcs.1.1
  have hw' : String.ofList (c :: rest) = w := by rw [← hl, String.ofList_toList]
  refine ⟨i + 1 + rest.length, ?_⟩
  rw [hl, List.cons_append, tokensFrom, if_neg (by simp [not_isIgnored_of_isNameStart hw.1]),
    if_neg (ne_of_isNameStart hw.1 rfl), reading_of_isNameStart hw.1, htake, hw']
  simp only [Nat.succ_eq_add_one, Nat.add_sub_cancel, tokensFrom_skip]

theorem tokensFrom_spread (cs : List Char) (i : Nat) :
    ∃ j, tokensFrom 0 i ('.' :: '.' :: '.' :: cs) =
      ⟨.punctuator .spread, some i⟩ :: tokensFrom 0 j cs :=
  ⟨i + 1 + 1 + 1, rfl⟩

theorem tokensFrom_literal {l : Lexeme} {body cs : List Char} (hl : Written l body)
    (hcs : endsToken cs = true) (i : Nat) :
    ∃ j, tokensFrom 0 i (body ++ cs) = ⟨l, some i⟩ :: tokensFrom 0 j cs := by
  obtain ⟨c, rest, hbody, hignored, hcomment, hreading⟩ := hl 0 cs hcs
  obtain rfl : body = c :: rest := hbody
  refine ⟨i + 1 + rest.length, ?_⟩
  rw [List.cons_append, tokensFrom, if_neg (by simp [hignored]), if_neg hcomment, hreading]
  simp only [Nat.add_sub_cancel, tokensFrom_skip]

/-- The lexer reads a spelling as what it spells and then the end of the text. -/
theorem tokensFrom_spelling {ls : List Lexeme} {cs : List Char} (h : Spelling ls cs) (i : Nat) :
    (tokensFrom 0 i cs).map Token.lexeme = ls ++ [.eof] := by
  induction h generalizing i with
  | nil => rfl
  | blank hc _ ih => rw [tokensFrom_blank hc, ih]
  | @comment body ls cs hb _ ih =>
    obtain ⟨j, hj⟩ := tokensFrom_comment hb cs i
    rw [hj, ih]
  | mark hp _ ih => rw [tokensFrom_mark hp, List.map_cons, ih]; rfl
  | word hw hcs _ ih =>
    obtain ⟨j, hj⟩ := tokensFrom_word hw hcs i
    rw [hj, List.map_cons, ih]
    rfl
  | @spread ls cs _ ih =>
    obtain ⟨j, hj⟩ := tokensFrom_spread cs i
    rw [hj, List.map_cons, ih]
    rfl
  | literal hl hcs _ ih =>
    obtain ⟨j, hj⟩ := tokensFrom_literal hl hcs i
    rw [hj, List.map_cons, ih]
    rfl

theorem lexemesOf_spelling {ls : List Lexeme} {text : String} (h : Spelling ls text.toList) :
    lexemesOf text = ls ++ [.eof] :=
  tokensFrom_spelling h 0

/-! ## Putting spellings together -/

theorem Spelling.append {ls ms : List Lexeme} {cs ds : List Char} (h : Spelling ls cs)
    (hds : endsToken ds = true) (h' : Spelling ms ds) : Spelling (ls ++ ms) (cs ++ ds) := by
  induction h with
  | nil => exact h'
  | blank hc _ ih => exact .blank hc ih
  | @comment body ls cs hb _ ih =>
    rw [List.cons_append, List.append_assoc]
    exact .comment hb ih
  | mark hp _ ih => exact .mark hp ih
  | @word w ls cs hw hcs _ ih =>
    rw [List.append_assoc]
    refine .word hw ?_ ih
    cases cs with
    | nil => exact hds
    | cons c cs => exact hcs
  | spread _ ih => exact .spread ih
  | @literal l body ls cs hl hcs _ ih =>
    rw [List.append_assoc]
    refine .literal hl ?_ ih
    cases cs with
    | nil => exact hds
    | cons c cs => exact hcs

theorem Spelling.ne_nil {l : Lexeme} {ls : List Lexeme} {cs : List Char}
    (h : Spelling (l :: ls) cs) : cs ≠ [] := by
  cases h with
  | blank => simp
  | comment => simp
  | mark => simp
  | word hw hcs h =>
    intro he
    rw [(List.append_eq_nil_iff.mp he).1] at hw
    cases hw
  | spread => simp
  | literal hl hcs h =>
    intro he
    obtain ⟨c, cs, hbody, -⟩ := hl 0 [] rfl
    rw [(List.append_eq_nil_iff.mp he).1] at hbody
    cases hbody

theorem Spelling.blanks {bs : List Char} (hb : ∀ c ∈ bs, Reading.isIgnored c = true)
    {ls : List Lexeme} {cs : List Char} (h : Spelling ls cs) : Spelling ls (bs ++ cs) := by
  induction bs with
  | nil => exact h
  | cons b bs ih =>
    exact .blank (hb b List.mem_cons_self) (ih fun c hc => hb c (List.mem_cons_of_mem b hc))

theorem endsToken_of_isIgnored {c : Char} (hc : Reading.isIgnored c = true) (cs : List Char) :
    endsToken (c :: cs) = true := by
  simp only [Reading.isIgnored, Bool.or_eq_true, beq_iff_eq] at hc
  rcases hc with ((((rfl | rfl) | rfl) | rfl) | rfl) | rfl <;> rfl

/-- Texts with something ignored between them spell their lexemes one after the other. -/
theorem spelling_separated {γ : Type} {text : γ → String} {written : γ → List Lexeme} (sep : String)
    (hsep : ∀ c ∈ sep.toList, Reading.isIgnored c = true) (hne : sep ≠ "") {xs : List γ}
    (h : ∀ x ∈ xs, Spelling (written x) (text x).toList) :
    Spelling (xs.flatMap written) (Text.separated sep (xs.map text)).toList := by
  induction xs with
  | nil => exact .nil
  | cons x xs ih =>
    have hx := h x List.mem_cons_self
    cases xs with
    | nil => simpa [Text.separated] using hx
    | cons y ys =>
      have hrest := ih fun z hz => h z (List.mem_cons_of_mem x hz)
      obtain ⟨c, cs, hc⟩ := List.exists_cons_of_ne_nil
        (fun he => hne (String.toList_eq_nil_iff.mp he) : sep.toList ≠ [])
      have hends : endsToken (sep.toList ++ (Text.separated sep ((y :: ys).map text)).toList) = true := by
        rw [hc]
        exact endsToken_of_isIgnored (hsep c (by simp [hc])) _
      rw [List.flatMap_cons, List.map_cons, List.map_cons, Text.separated_cons_cons,
        String.toList_append, String.toList_append, List.append_assoc]
      exact hx.append hends (.blanks hsep hrest)

/-- Items between brackets as they are written: nothing at all if there are none. -/
def enclosed (opening close : Punctuator) (ls : List Lexeme) : List Lexeme :=
  if ls = [] then [] else .punctuator opening :: (ls ++ [.punctuator close])

theorem endsToken_of_ofChar? {c : Char} {p : Punctuator} (hp : Punctuator.ofChar? c = some p)
    (cs : List Char) : endsToken (c :: cs) = true := by
  unfold Punctuator.ofChar? at hp
  split at hp
  all_goals first
    | rfl
    | cases hp

/-- Items spelled between brackets, with or without something ignored inside of these. -/
theorem spelling_enclosed {opening close : Punctuator} {o c : Char} (bs bs' : List Char)
    {cs : List Char} {ls : List Lexeme} (ho : Punctuator.ofChar? o = some opening)
    (hc : Punctuator.ofChar? c = some close) (hbs : ∀ b ∈ bs, Reading.isIgnored b = true)
    (hbs' : ∀ b ∈ bs', Reading.isIgnored b = true) (hls : ls ≠ []) (h : Spelling ls cs) :
    Spelling (enclosed opening close ls) (o :: (bs ++ (cs ++ (bs' ++ [c])))) := by
  have hends : endsToken (bs' ++ [c]) = true := by
    cases bs' with
    | nil => exact endsToken_of_ofChar? hc []
    | cons b bs' => exact endsToken_of_isIgnored (hbs' b List.mem_cons_self) _
  rw [enclosed, if_neg hls]
  exact .mark ho (.blanks hbs (h.append hends (.blanks hbs' (.mark hc .nil))))

/-! ## Indenting -/

theorem indentChars_append (cs ds : List Char) :
    Text.indentChars (cs ++ ds) = Text.indentChars cs ++ Text.indentChars ds := by
  induction cs with
  | nil => rfl
  | cons c cs ih =>
    simp only [List.cons_append, Text.indentChars, ih]
    split <;> rfl

theorem indentChars_line {cs : List Char} (h : ∀ c ∈ cs, c ≠ '\n') : Text.indentChars cs = cs := by
  induction cs with
  | nil => rfl
  | cons c cs ih =>
    rw [Text.indentChars, if_neg (h c List.mem_cons_self),
      ih fun d hd => h d (List.mem_cons_of_mem c hd)]

theorem endsToken_indentChars (cs : List Char) : endsToken (Text.indentChars cs) = endsToken cs := by
  cases cs with
  | nil => rfl
  | cons c cs =>
    rw [Text.indentChars]
    split
    · next hc => rw [hc]; rfl
    · rfl

/-- No character of a name or a comment ends a line. -/
theorem ne_newline_of_isName {cs : List Char} (h : isName cs = true) : ∀ c ∈ cs, c ≠ '\n' := by
  rintro c hc rfl
  exact absurd (isNameContinue_of_mem h hc) (by decide)

theorem Written.indent {l : Lexeme} {body : List Char} (h : Written l body) :
    Written l (Text.indentChars body) := fun k rest hrest => h (k + 1) rest hrest

/-- A literal on one line stays as it is however deep it is indented. -/
theorem written_of_line {l : Lexeme} {c : Char} {cs : List Char} (hline : ∀ d ∈ c :: cs, d ≠ '\n')
    (hignored : Reading.isIgnored c = false) (hcomment : c ≠ '#')
    (h : ∀ rest, endsToken rest = true → Reading.of c (cs ++ rest) = .lexeme l (cs.length + 1)) :
    Written l (c :: cs) := by
  intro k rest hrest
  have hindent : Text.indentChars^[k] (c :: cs) = c :: cs :=
    Function.iterate_fixed (indentChars_line hline) k
  exact ⟨c, cs, hindent, hignored, hcomment, h rest hrest⟩

/-- Indented, a text still spells the same. -/
theorem Spelling.indent {ls : List Lexeme} {cs : List Char} (h : Spelling ls cs) :
    Spelling ls (Text.indentChars cs) := by
  induction h with
  | nil => exact .nil
  | @blank c ls cs hc _ ih =>
    rw [Text.indentChars]
    split
    · exact .blank (by decide) (.blank (by decide) (.blank (by decide) ih))
    · exact .blank hc ih
  | @comment body ls cs hb _ ih =>
    have hbody : ∀ c ∈ body, c ≠ '\n' := by
      rintro c hc rfl
      exact absurd (hb _ hc) (by decide)
    rw [Text.indentChars, if_neg (by decide), indentChars_append, indentChars_line hbody,
      Text.indentChars, if_pos rfl]
    exact .comment hb (.blank (by decide) (.blank (by decide) ih))
  | @mark c p ls cs hp _ ih =>
    have hc : c ≠ '\n' := by rintro rfl; cases hp
    rw [Text.indentChars, if_neg hc]
    exact .mark hp ih
  | @word w ls cs hw hcs _ ih =>
    rw [indentChars_append, indentChars_line (ne_newline_of_isName hw)]
    exact .word hw (by rw [endsToken_indentChars, hcs]) ih
  | spread _ ih => exact .spread ih
  | literal hl hcs _ ih =>
    rw [indentChars_append]
    exact .literal hl.indent (by rw [endsToken_indentChars, hcs]) ih

theorem spelling_indented {ls : List Lexeme} {s : String} (h : Spelling ls s.toList) :
    Spelling ls (Text.indented s).toList := by
  by_cases hs : s = ""
  · rw [hs] at h ⊢
    exact h
  · rw [Text.indented_of_ne hs]
    exact .blank rfl (.blank rfl h.indent)

end RequestBook
