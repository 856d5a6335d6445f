import RequestBook.Proofs.Document.TypeExpr

/-!
# Readers that look at no places

Most readers go by lexemes alone: wherever the tokens stand, such a reader takes the same from them.
What is known of it on lexemes without places is therefore known of it on the tokens of a text.
-/

namespace RequestBook

open TokenReader

variable {α β : Type} {n : Nat} {ls mid rest : List Lexeme} {x : α} {y : β}

/-! ## Blind readers -/

/-- Two readings that differ in the places of what is left, or of what is wrong, at most. -/
inductive SameReading : Except SyntaxError (α × List Token) → Except SyntaxError (α × List Token) →
    Prop
  | ok (x : α) {ts us : List Token} (h : ts.map Token.lexeme = us.map Token.lexeme) :
      SameReading (.ok (x, ts)) (.ok (x, us))
  | error (e e' : SyntaxError) : SameReading (.error e) (.error e')

/-- Two readers that do the same with tokens wherever these stand. -/
def SameReader (r r' : TokenReader α) : Prop :=
  ∀ n ts us, ts.map Token.lexeme = us.map Token.lexeme → SameReading (r n ts) (r' n us)

/-- A reader that looks at no places. -/
abbrev Blind (r : TokenReader α) : Prop := SameReader r r

theorem blind_pure (x : α) : Blind (pure x) := fun _ _ _ h => .ok x h

theorem SameReader.reject (f f' : SyntaxFault) (t t' : Token) :
    SameReader (reject f t : TokenReader α) (TokenReader.reject f' t') :=
  fun _ _ _ _ => .error _ _

theorem SameReader.bind {r r' : TokenReader α} {g g' : α → TokenReader β} (h : SameReader r r')
    (hg : ∀ x, SameReader (g x) (g' x)) : SameReader (r >>= g) (r' >>= g') := by
  intro n ts us hts
  change SameReading (r n ts >>= fun p => g p.1 n p.2) (r' n us >>= fun p => g' p.1 n p.2)
  have hsame := h n ts us hts
  generalize r n ts = reading at hsame ⊢
  generalize r' n us = reading' at hsame ⊢
  cases hsame with
  | ok x hleft => exact hg x n _ _ hleft
  | error e e' => exact .error e e'

theorem blind_bounded {read : Nat → TokenReader α} (h : ∀ k, Blind (read k)) :
    Blind (bounded read) :=
  fun n ts us hts => h n n ts us hts

/-- What is done with the token in view may hang on its lexeme only. -/
theorem SameReader.current {g g' : Token → TokenReader β}
    (h : ∀ l start start', SameReader (g ⟨l, start⟩) (g' ⟨l, start'⟩)) :
    SameReader (current >>= g) (TokenReader.current >>= g') := by
  intro n ts us hts
  cases ts with
  | nil =>
    obtain rfl := List.map_eq_nil_iff.mp hts.symm
    exact h .eof none none n [] [] hts
  | cons t ts =>
    obtain ⟨⟨l, start'⟩, us, rfl, hl, -⟩ := List.map_eq_cons_iff.mp hts.symm
    obtain ⟨l, start⟩ := t
    cases hl
    exact h l start start' n _ _ hts

theorem blind_isAt (p : Punctuator) : Blind (isAt p) :=
  .current fun l _ _ => blind_pure (l == .punctuator p)

theorem blind_checkCurrent : Blind checkCurrent := by
  refine .current fun l start start' => ?_
  cases l with
  | fault f => exact .reject _ _ _ _
  | _ => exact blind_pure ()

theorem blind_advance : Blind advance := by
  intro n ts us hts
  have hdrop : (ts.drop 1).map Token.lexeme = (us.drop 1).map Token.lexeme := by
    rw [List.map_drop, List.map_drop, hts]
  exact blind_checkCurrent n _ _ hdrop

theorem blind_skip (p : Punctuator) : Blind (skip? p) := by
  refine (blind_isAt p).bind fun found => ?_
  cases found with
  | true => exact blind_advance.bind fun _ => blind_pure true
  | false => exact blind_pure false

theorem blind_expect (p : Punctuator) : Blind (expect p) := by
  refine (blind_skip p).bind fun found => ?_
  cases found with
  | true => exact blind_pure ()
  | false => exact .current fun _ _ _ => .reject _ _ _ _

theorem blind_name : Blind name := by
  refine .current fun l start start' => ?_
  cases l with
  | name s => exact blind_advance.bind fun _ => blind_pure s
  | _ => exact .reject _ _ _ _

theorem blind_skipKeyword (word : String) : Blind (skipKeyword? word) := by
  refine .current fun l start start' => ?_
  dsimp only
  split
  · exact blind_advance.bind fun _ => blind_pure true
  · exact blind_pure false

theorem blind_expectKeyword (word : String) : Blind (expectKeyword word) := by
  refine (blind_skipKeyword word).bind fun found => ?_
  cases found with
  | true => exact blind_pure ()
  | false => exact .current fun _ _ _ => .reject _ _ _ _

theorem blind_readDescription : Blind readDescription := by
  refine .current fun l start start' => ?_
  cases l with
  | string text => exact blind_advance.bind fun _ => blind_pure _
  | blockString text => exact blind_advance.bind fun _ => blind_pure _
  | _ => exact blind_pure none

theorem blind_readTypeWithin (levels : Nat) : Blind (readTypeWithin levels) := by
  induction levels with
  | zero => exact .current fun _ _ _ => .reject _ _ _ _
  | succ levels ih =>
    have hclose (base : TypeExpr) : Blind (TypeExpr.closeType base) := by
      refine (blind_skip .bang).bind fun found => ?_
      cases found with
      | true => exact blind_pure _
      | false => exact blind_pure _
    rw [TypeExpr.readTypeWithin_succ]
    refine (blind_skip .bracketL).bind fun found => ?_
    cases found with
    | true =>
      exact ih.bind fun item => (blind_expect .bracketR).bind fun _ => hclose (.list item)
    | false => exact blind_name.bind fun s => hclose (.named s)

theorem blind_readType : Blind readType := blind_bounded blind_readTypeWithin

/-! ## Readings of placed tokens -/

/-- Wherever the tokens stand, the reader takes `x` from the front of `ls` and leaves `rest`. -/
def TakesAnywhere (n : Nat) (r : TokenReader α) (ls : List Lexeme) (x : α) (rest : List Lexeme) :
    Prop :=
  ∀ ts : List Token, ts.map Token.lexeme = ls →
    ∃ left : List Token, left.map Token.lexeme = rest ∧ r n ts = .ok (x, left)

theorem map_lexeme_unplaced (ls : List Lexeme) : (unplaced ls).map Token.lexeme = ls := by
  rw [unplaced, List.map_map]
  exact List.map_id ls

theorem Blind.takesAnywhere {r : TokenReader α} (h : Blind r) (hr : Takes n r ls x rest) :
    TakesAnywhere n r ls x rest := by
  intro ts hts
  have hsame := h n ts (unplaced ls) (hts.trans (map_lexeme_unplaced ls).symm)
  rw [show r n (unplaced ls) = _ from hr] at hsame
  cases hread : r n ts with
  | error e =>
    rw [hread] at hsame
    cases hsame
  | ok p =>
    rw [hread] at hsame
    cases hsame with
    | ok _ hleft => exact ⟨_, hleft.trans (map_lexeme_unplaced rest), rfl⟩

namespace TakesAnywhere

theorem pure (x : α) (ls : List Lexeme) : TakesAnywhere n (Pure.pure x) ls x ls :=
  fun ts hts => ⟨ts, hts, rfl⟩

theorem bind {r : TokenReader α} {g : α → TokenReader β} (h : TakesAnywhere n r ls x mid)
    (h' : TakesAnywhere n (g x) mid y rest) : TakesAnywhere n (r >>= g) ls y rest := by
  intro ts hts
  obtain ⟨us, hus, hr⟩ := h ts hts
  obtain ⟨left, hleft, hg⟩ := h' us hus
  refine ⟨left, hleft, ?_⟩
  change (r n ts >>= fun p => g p.1 n p.2) = _
  rw [hr]
  exact hg

/-- A choice that turns out well. -/
theorem bind_true {r : TokenReader Bool} {a b : TokenReader α} (h : TakesAnywhere n r ls true mid)
    (h' : TakesAnywhere n a mid x rest) :
    TakesAnywhere n (r >>= fun c => if c = true then a else b) ls x rest :=
  h.bind h'

theorem bind_false {r : TokenReader Bool} {a b : TokenReader α}
    (h : TakesAnywhere n r ls false mid) (h' : TakesAnywhere n b mid x rest) :
    TakesAnywhere n (r >>= fun c => if c = true then a else b) ls x rest :=
  h.bind h'

/-- What is done with the token in view, whatever its place is. -/
theorem current {l : Lexeme} {g : Token → TokenReader β}
    (h : ∀ start, TakesAnywhere n (g ⟨l, start⟩) (l :: ls) y rest) :
    TakesAnywhere n (TokenReader.current >>= g) (l :: ls) y rest := by
  intro ts hts
  obtain ⟨t, ts, rfl, ht, -⟩ := List.map_eq_cons_iff.mp hts
  obtain ⟨left, hleft, hg⟩ := h t.start _ hts
  refine ⟨left, hleft, ?_⟩
  rw [← ht] at hg
  exact hg

end TakesAnywhere

end RequestBook
