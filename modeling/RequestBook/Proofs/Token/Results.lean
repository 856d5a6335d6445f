import RequestBook.Proofs.Token.Printable
import RequestBook.Token.Reader

/-!
# What readers give

On tokens that can be written again, a reader gives results with some property and leaves such
tokens. What each step gives carries over to the steps put together, so that the property of a
result is read off its reader.
-/

namespace RequestBook

open TokenReader

/-- A token without a place that can be written again. -/
structure Token.Writable (t : Token) : Prop where
  lexeme : t.lexeme.Printable
  start : t.start = none

/-- Every result that the reader takes from writable tokens has the property. -/
def Gives (r : TokenReader α) (P : α → Prop) : Prop :=
  ∀ n ts x rest, (∀ t ∈ ts, t.Writable) → r n ts = .ok (x, rest) → P x ∧ ∀ t ∈ rest, t.Writable

variable {α β : Type} {r : TokenReader α} {P : α → Prop} {Q : β → Prop}

/-! ## Steps -/

theorem Gives.pure {x : α} (h : P x) : Gives (Pure.pure x) P := by
  intro n ts y rest hts hy
  cases hy
  exact ⟨h, hts⟩

theorem Gives.bind {g : α → TokenReader β} (h : Gives r P) (h' : ∀ x, P x → Gives (g x) Q) :
    Gives (r >>= g) Q := by
  intro n ts y rest hts hy
  change (r n ts >>= fun p => g p.1 n p.2) = _ at hy
  cases hr : r n ts with
  | error e => rw [hr] at hy; cases hy
  | ok p =>
    rw [hr] at hy
    obtain ⟨hx, hmid⟩ := h n ts p.1 p.2 hts hr
    exact h' p.1 hx n p.2 y rest hmid hy

theorem Gives.map {g : α → β} (h : Gives r P) (hg : ∀ x, P x → Q (g x)) : Gives (g <$> r) Q := by
  have hbind : Gives (r >>= fun x => Pure.pure (g x)) Q := h.bind fun x hx => .pure (hg x hx)
  exact hbind

theorem Gives.mono {P' : α → Prop} (h : Gives r P) (hP : ∀ x, P x → P' x) : Gives r P' :=
  fun n ts x rest hts hx => (h n ts x rest hts hx).imp_left (hP x)

theorem Gives.bounded {read : Nat → TokenReader α} (h : ∀ n, Gives (read n) P) :
    Gives (TokenReader.bounded read) P :=
  fun n => h n n

/-! ## Single tokens -/

theorem gives_reject (f : SyntaxFault) (t : Token) : Gives (reject f t : TokenReader α) P := by
  intro n ts x rest _ hx
  cases hx

theorem gives_current : Gives current Token.Writable := by
  intro n ts x rest hts hx
  cases hx
  cases ts with
  | nil => exact ⟨⟨trivial, rfl⟩, hts⟩
  | cons t ts => exact ⟨hts t List.mem_cons_self, hts⟩

theorem gives_checkCurrent : Gives checkCurrent fun _ => True := by
  refine gives_current.bind fun t _ => ?_
  split
  · exact gives_reject _ _
  · exact .pure trivial

theorem gives_advance : Gives advance fun _ => True := by
  have hdrop : Gives (modify (List.drop 1) : TokenReader Unit) fun _ => True := by
    intro n ts x rest hts hx
    cases hx
    exact ⟨trivial, fun t ht => hts t (List.mem_of_mem_drop ht)⟩
  exact hdrop.bind fun _ _ => gives_checkCurrent

theorem gives_unexpected : Gives (unexpected : TokenReader α) P :=
  gives_current.bind fun _ _ => gives_reject _ _

theorem gives_isAt (p : Punctuator) : Gives (isAt p) fun _ => True :=
  gives_current.bind fun _ _ => .pure trivial

theorem gives_skip (p : Punctuator) : Gives (skip? p) fun _ => True := by
  refine (gives_isAt p).bind fun c _ => ?_
  split
  · exact gives_advance.bind fun _ _ => .pure trivial
  · exact .pure trivial

theorem gives_expect (p : Punctuator) : Gives (expect p) fun _ => True := by
  refine (gives_skip p).bind fun c _ => ?_
  split
  · exact .pure trivial
  · exact gives_current.bind fun _ _ => gives_reject _ _

theorem gives_name : Gives name fun s => isName s.toList = true := by
  refine gives_current.bind fun t ht => ?_
  split
  · next s hs =>
    have hname := ht.lexeme
    rw [hs] at hname
    exact gives_advance.bind fun _ _ => .pure hname
  · exact gives_reject _ _

theorem gives_skipKeyword (word : String) : Gives (skipKeyword? word) fun _ => True := by
  refine gives_current.bind fun t _ => ?_
  split
  · exact gives_advance.bind fun _ _ => .pure trivial
  · exact .pure trivial

theorem gives_expectKeyword (word : String) : Gives (expectKeyword word) fun _ => True := by
  refine (gives_skipKeyword word).bind fun c _ => ?_
  split
  · exact .pure trivial
  · exact gives_current.bind fun _ _ => gives_reject _ _

/-! ## Repetitions -/

section Repetition

variable {item : TokenReader α} (h : Gives item P)

include h

theorem gives_itemsUntil (close : Punctuator) (n : Nat) :
    Gives (itemsUntil close item n) fun xs => ∀ x ∈ xs, P x := by
  induction n with
  | zero => exact gives_unexpected
  | succ n ih =>
    refine (gives_skip close).bind fun c _ => ?_
    split
    · exact .pure (by simp)
    · exact h.bind fun x hx => ih.bind fun xs hxs => .pure (List.forall_mem_cons.mpr ⟨hx, hxs⟩)

theorem gives_any (opening close : Punctuator) :
    Gives (any opening item close) fun xs => ∀ x ∈ xs, P x :=
  (gives_expect opening).bind fun _ _ => .bounded (gives_itemsUntil h close)

theorem gives_many (opening close : Punctuator) :
    Gives (many opening item close) fun xs => xs ≠ [] ∧ ∀ x ∈ xs, P x := by
  refine (gives_expect opening).bind fun _ _ => h.bind fun x hx => ?_
  refine (Gives.bounded (gives_itemsUntil h close)).bind fun xs hxs => ?_
  exact .pure ⟨by simp, List.forall_mem_cons.mpr ⟨hx, hxs⟩⟩

theorem gives_optionalMany (opening close : Punctuator) :
    Gives (optionalMany opening item close) fun xs => ∀ x ∈ xs, P x := by
  refine (gives_isAt opening).bind fun c _ => ?_
  split
  · exact (gives_many h opening close).mono fun _ hxs => hxs.2
  · exact .pure (by simp)

theorem gives_itemsSeparated (sep : Punctuator) (n : Nat) :
    Gives (itemsSeparated sep item n) fun xs => xs ≠ [] ∧ ∀ x ∈ xs, P x := by
  induction n with
  | zero => exact gives_unexpected
  | succ n ih =>
    refine h.bind fun x hx => (gives_skip sep).bind fun c _ => ?_
    split
    · exact ih.bind fun xs hxs => .pure ⟨by simp, List.forall_mem_cons.mpr ⟨hx, hxs.2⟩⟩
    · exact .pure ⟨by simp, by simpa using hx⟩

theorem gives_delimited (sep : Punctuator) :
    Gives (delimited sep item) fun xs => xs ≠ [] ∧ ∀ x ∈ xs, P x :=
  (gives_skip sep).bind fun _ _ => .bounded (gives_itemsSeparated h sep)

theorem gives_itemsWhile (start : Punctuator) (n : Nat) :
    Gives (itemsWhile start item n) fun xs => ∀ x ∈ xs, P x := by
  induction n with
  | zero => exact .pure (by simp)
  | succ n ih =>
    refine (gives_isAt start).bind fun c _ => ?_
    split
    · exact h.bind fun x hx => ih.bind fun xs hxs => .pure (List.forall_mem_cons.mpr ⟨hx, hxs⟩)
    · exact .pure (by simp)

end Repetition

end RequestBook
