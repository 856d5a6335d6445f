import RequestBook.Document.Parser
import RequestBook.Proofs.Token.Spelling

/-!
# Readers on lists of lexemes

What a reader does is said in two ways: it takes a value from the front of a list of lexemes, or
it refuses the list. Both compose along the steps of a reader, and the readers of single tokens
and of repetitions are described once, for all items.
-/

namespace RequestBook

open TokenReader

/-- Tokens whose places are not known. -/
def unplaced (ls : List Lexeme) : List Token := ls.map (⟨·, none⟩)

/-- With `n` tokens in all, the reader takes `x` from the front of `ls` and leaves `rest`. -/
def Takes (n : Nat) (r : TokenReader α) (ls : List Lexeme) (x : α) (rest : List Lexeme) : Prop :=
  r n (unplaced ls) = .ok (x, unplaced rest)

def Refuses (n : Nat) (r : TokenReader α) (ls : List Lexeme) (f : SyntaxFault) : Prop :=
  r n (unplaced ls) = .error ⟨f, none⟩

/-- The lexeme in view is no fault of the text. -/
def Sound (ls : List Lexeme) : Prop := ∀ f, ls.head? ≠ some (.fault f)

variable {α β : Type} {n : Nat} {ls mid rest : List Lexeme} {x : α} {y : β} {f : SyntaxFault}

/-! ## Steps -/

theorem Takes.pure (x : α) (ls : List Lexeme) : Takes n (Pure.pure x) ls x ls := rfl

theorem Takes.bind {r : TokenReader α} {g : α → TokenReader β} (h : Takes n r ls x mid)
    (h' : Takes n (g x) mid y rest) : Takes n (r >>= g) ls y rest := by
  change (r n (unplaced ls) >>= fun p => g p.1 n p.2) = _
  rw [show r n (unplaced ls) = _ from h]
  exact h'

theorem Takes.bind_refuses {r : TokenReader α} {g : α → TokenReader β} (h : Takes n r ls x mid)
    (h' : Refuses n (g x) mid f) : Refuses n (r >>= g) ls f := by
  change (r n (unplaced ls) >>= fun p => g p.1 n p.2) = _
  rw [show r n (unplaced ls) = _ from h]
  exact h'

theorem Refuses.bind {r : TokenReader α} (h : Refuses n r ls f) (g : α → TokenReader β) :
    Refuses n (r >>= g) ls f := by
  change (r n (unplaced ls) >>= fun p => g p.1 n p.2) = _
  rw [show r n (unplaced ls) = _ from h]
  rfl

theorem Takes.map {r : TokenReader α} (h : Takes n r ls x rest) (g : α → β) :
    Takes n (g <$> r) ls (g x) rest := by
  change (r n (unplaced ls) >>= fun p => Except.ok (g p.1, p.2)) = _
  rw [show r n (unplaced ls) = _ from h]
  rfl

theorem Refuses.map {r : TokenReader α} (h : Refuses n r ls f) (g : α → β) :
    Refuses n (g <$> r) ls f := by
  change (r n (unplaced ls) >>= fun p => Except.ok (g p.1, p.2)) = _
  rw [show r n (unplaced ls) = _ from h]
  rfl

/-- A choice that turns out well. -/
theorem Takes.bind_true {r : TokenReader Bool} {a b : TokenReader α} (h : Takes n r ls true mid)
    (h' : Takes n a mid x rest) : Takes n (r >>= fun c => if c = true then a else b) ls x rest :=
  h.bind h'

theorem Takes.bind_false {r : TokenReader Bool} {a b : TokenReader α} (h : Takes n r ls false mid)
    (h' : Takes n b mid x rest) : Takes n (r >>= fun c => if c = true then a else b) ls x rest :=
  h.bind h'

theorem takes_bounded {read : Nat → TokenReader α} (h : Takes n (read n) ls x rest) :
    Takes n (bounded read) ls x rest := h

/-! ## Single tokens -/

theorem sound_cons {l : Lexeme} (h : ∀ f, l ≠ .fault f) (ls : List Lexeme) : Sound (l :: ls) :=
  fun f hf => h f (Option.some.inj hf)

theorem sound_punctuator (p : Punctuator) (ls : List Lexeme) : Sound (.punctuator p :: ls) :=
  sound_cons (fun _ => by simp) ls

theorem sound_name (s : String) (ls : List Lexeme) : Sound (.name s :: ls) :=
  sound_cons (fun _ => by simp) ls

theorem takes_current (l : Lexeme) (ls : List Lexeme) :
    Takes n current (l :: ls) ⟨l, none⟩ (l :: ls) := rfl

theorem takes_advance (l : Lexeme) (h : Sound rest) : Takes n advance (l :: rest) () rest := by
  cases rest with
  | nil => rfl
  | cons m rest =>
    cases m with
    | fault f => exact absurd rfl (h f)
    | _ => rfl

theorem takes_isAt (p : Punctuator) (l : Lexeme) (ls : List Lexeme) :
    Takes n (isAt p) (l :: ls) (l == .punctuator p) (l :: ls) := rfl

theorem takes_isAt_self (p : Punctuator) (ls : List Lexeme) :
    Takes n (isAt p) (.punctuator p :: ls) true (.punctuator p :: ls) := by
  have h := takes_isAt (n := n) p (.punctuator p) ls
  rwa [beq_self_eq_true] at h

theorem takes_isAt_absent {p : Punctuator} {l : Lexeme} (hl : l ≠ .punctuator p)
    (ls : List Lexeme) : Takes n (isAt p) (l :: ls) false (l :: ls) := by
  have h := takes_isAt (n := n) p l ls
  rwa [beq_eq_false_iff_ne.mpr hl] at h

theorem takes_skip (p : Punctuator) (h : Sound rest) :
    Takes n (skip? p) (.punctuator p :: rest) true rest :=
  (takes_isAt_self p rest).bind_true ((takes_advance _ h).bind (.pure true rest))

/-- A punctuator that is not there is not skipped. -/
theorem takes_skip_absent {p : Punctuator} {l : Lexeme} (hl : l ≠ .punctuator p)
    (ls : List Lexeme) : Takes n (skip? p) (l :: ls) false (l :: ls) :=
  (takes_isAt_absent hl ls).bind_false (.pure false _)

theorem takes_expect (p : Punctuator) (h : Sound rest) :
    Takes n (expect p) (.punctuator p :: rest) () rest :=
  (takes_skip p h).bind (.pure () rest)

theorem refuses_expect {p : Punctuator} {l : Lexeme} (hl : l ≠ .punctuator p) (ls : List Lexeme) :
    Refuses n (expect p) (l :: ls) (.expected (.punctuator p) l) :=
  (takes_skip_absent hl ls).bind_refuses rfl

theorem takes_name (s : String) (h : Sound rest) : Takes n name (.name s :: rest) s rest :=
  (takes_current _ _).bind ((takes_advance _ h).bind (.pure s rest))

/-! ## Lengths -/

theorem mem_length_le {g : α → List Lexeme} {xs : List α} {x : α} (h : x ∈ xs) :
    (g x).length ≤ (xs.flatMap g).length := by
  obtain ⟨before, after, rfl⟩ := List.append_of_mem h
  simp only [List.flatMap_append, List.flatMap_cons, List.length_append]
  omega

theorem length_le_flatMap {g : α → List Lexeme} (hg : ∀ x, 0 < (g x).length)
    (xs : List α) : xs.length ≤ (xs.flatMap g).length := by
  induction xs with
  | nil => exact Nat.zero_le _
  | cons x xs ih =>
    have := hg x
    simp only [List.length_cons, List.flatMap_cons, List.length_append]
    omega

theorem length_le_enclosed (opening close : Punctuator) (ls : List Lexeme) :
    ls.length ≤ (enclosed opening close ls).length := by
  by_cases h : ls = []
  · rw [h]; exact Nat.zero_le _
  · rw [enclosed, if_neg h, List.length_cons, List.length_append]
    omega

/-! ## Repetitions -/

section Repetition

variable {γ : Type} {item : TokenReader α} {close : Punctuator} {k : Nat} {l : Lexeme}

/-- The items `xs` between two punctuators: what they are written as and read as, given that
another item or the closing punctuator follows. -/
structure Items (n : Nat) (item : TokenReader α) (close : Punctuator) (begins : Lexeme → Prop)
    (written : γ → List Lexeme) (read : γ → α) (xs : List γ) : Prop where
  apart : ¬ begins (.punctuator close)
  sound : ∀ l, begins l → ∀ f, l ≠ .fault f
  head : ∀ c ∈ xs, ∃ l ls, written c = l :: ls ∧ begins l
  takes : ∀ c ∈ xs, ∀ l ls, begins l ∨ l = .punctuator close →
    Takes n item (written c ++ l :: ls) (read c) (l :: ls)

theorem Items.tail {begins : Lexeme → Prop} {written : γ → List Lexeme} {read : γ → α} {c : γ}
    {xs : List γ} (h : Items n item close begins written read (c :: xs)) :
    Items n item close begins written read xs where
  apart := h.apart
  sound := h.sound
  head d hd := h.head d (List.mem_cons_of_mem c hd)
  takes d hd := h.takes d (List.mem_cons_of_mem c hd)

theorem takes_itemsUntil_end (item : TokenReader α) (h : Sound rest) :
    Takes n (itemsUntil close item (k + 1)) (.punctuator close :: rest) [] rest :=
  (takes_skip close h).bind_true (.pure [] rest)

theorem takes_itemsUntil_step {xs : List α} (hl : l ≠ .punctuator close)
    (hitem : Takes n item (l :: ls) x mid)
    (hrest : Takes n (itemsUntil close item k) mid xs rest) :
    Takes n (itemsUntil close item (k + 1)) (l :: ls) (x :: xs) rest :=
  (takes_skip_absent hl ls).bind_false (hitem.bind (hrest.bind (.pure (x :: xs) rest)))

/-- One item and then those up to the closing punctuator. -/
def itemsFrom (close : Punctuator) (item : TokenReader α) (k : Nat) : TokenReader (List α) := do
  let x ← item
  return x :: (← itemsUntil close item k)

theorem refuses_itemsUntil (hl : l ≠ .punctuator close)
    (h : Refuses n (itemsFrom close item k) (l :: ls) f) :
    Refuses n (itemsUntil close item (k + 1)) (l :: ls) f :=
  (takes_skip_absent hl ls).bind_refuses h

variable {begins : Lexeme → Prop} {written : γ → List Lexeme} {read : γ → α} {xs : List γ}

/-- What the lexemes of some items begin with, if not with what follows them. -/
theorem Items.begin_or (h : Items n item close begins written read xs) {P : Lexeme → Prop}
    (hP : ∀ m, begins m → P m) (hl : P l) (ls : List Lexeme) :
    ∃ m ms, xs.flatMap written ++ l :: ls = m :: ms ∧ P m := by
  cases xs with
  | nil => exact ⟨l, ls, rfl, hl⟩
  | cons c xs =>
    obtain ⟨m, ms, hc, hm⟩ := h.head c List.mem_cons_self
    exact ⟨m, ms ++ (xs.flatMap written ++ l :: ls), by simp [hc], hP m hm⟩

/-- The first item leaves the others. -/
theorem Items.takes_first {c : γ} (h : Items n item close begins written read (c :: xs))
    (hl : begins l ∨ l = .punctuator close) (ls : List Lexeme) :
    Takes n item ((c :: xs).flatMap written ++ l :: ls) (read c) (xs.flatMap written ++ l :: ls) := by
  obtain ⟨m, ms, hm, hb⟩ := h.tail.begin_or (P := fun m => begins m ∨ m = .punctuator close)
    (fun _ => Or.inl) hl ls
  rw [List.flatMap_cons, List.append_assoc, hm]
  exact h.takes c List.mem_cons_self m ms hb

theorem Items.takes_itemsUntil (h : Items n item close begins written read xs)
    (hk : xs.length < k) (hrest : Sound rest) :
    Takes n (itemsUntil close item k) (xs.flatMap written ++ .punctuator close :: rest)
      (xs.map read) rest := by
  induction xs generalizing k with
  | nil =>
    obtain ⟨k, rfl⟩ := Nat.exists_eq_succ_of_ne_zero (Nat.ne_of_gt hk)
    exact takes_itemsUntil_end item hrest
  | cons c xs ih =>
    obtain ⟨k, rfl⟩ := Nat.exists_eq_succ_of_ne_zero (Nat.ne_of_gt (Nat.zero_lt_of_lt hk))
    have htail := ih h.tail (Nat.lt_of_succ_lt_succ hk)
    have hitem := h.takes_first (Or.inr rfl) rest
    obtain ⟨l, ls, hc, hl⟩ := h.head c List.mem_cons_self
    have hne : l ≠ .punctuator close := fun he => h.apart (he ▸ hl)
    rw [List.flatMap_cons, hc] at hitem ⊢
    exact takes_itemsUntil_step hne hitem htail

/-- A later item is refused although those before it can be read. -/
theorem Items.refuses_itemsFrom (h : Items n item close begins written read xs)
    (hk : xs.length < k) (hl : begins l)
    (hbad : ∀ k, 0 < k → Refuses n (itemsFrom close item k) (l :: ls) f) :
    Refuses n (itemsFrom close item k) (xs.flatMap written ++ l :: ls) f := by
  induction xs generalizing k with
  | nil => exact hbad k hk
  | cons c xs ih =>
    obtain ⟨k, rfl⟩ := Nat.exists_eq_succ_of_ne_zero (Nat.ne_of_gt (Nat.zero_lt_of_lt hk))
    have htail := ih h.tail (Nat.lt_of_succ_lt_succ hk)
    have hitem := h.takes_first (Or.inl hl) ls
    obtain ⟨m, ms, hm, hb⟩ := h.tail.begin_or (fun _ hm => hm) hl ls
    have hne : m ≠ .punctuator close := fun he => h.apart (he ▸ hb)
    rw [hm] at hitem htail
    exact hitem.bind_refuses ((refuses_itemsUntil hne htail).bind _)

theorem Items.sound_flatMap (h : Items n item close begins written read xs) (rest : List Lexeme) :
    Sound (xs.flatMap written ++ .punctuator close :: rest) := by
  obtain ⟨m, ms, hm, hsound⟩ := h.begin_or h.sound (l := .punctuator close) (fun _ => by simp) rest
  rw [hm]
  exact sound_cons hsound ms

theorem Items.takes_many (h : Items n item close begins written read xs) (opening : Punctuator)
    (hne : xs ≠ []) (hn : xs.length ≤ n) (hrest : Sound rest) :
    Takes n (many opening item close)
      (.punctuator opening :: (xs.flatMap written ++ .punctuator close :: rest))
      (xs.map read) rest := by
  have hopen := takes_expect (n := n) opening (h.sound_flatMap rest)
  cases xs with
  | nil => exact absurd rfl hne
  | cons c xs =>
    have htail : Takes n (bounded (itemsUntil close item)) _ _ rest :=
      h.tail.takes_itemsUntil (k := n) hn hrest
    exact hopen.bind ((h.takes_first (Or.inr rfl) rest).bind (htail.bind (.pure _ rest)))

theorem Items.refuses_many (h : Items n item close begins written read xs)
    (opening : Punctuator) (hn : xs.length < n) (hl : begins l)
    (hbad : ∀ k, 0 < k → Refuses n (itemsFrom close item k) (l :: ls) f) :
    Refuses n (many opening item close) (.punctuator opening :: (xs.flatMap written ++ l :: ls)) f := by
  obtain ⟨m, ms, hm, hb⟩ := h.begin_or (fun _ hm => hm) hl ls
  have hfrom := h.refuses_itemsFrom hn hl hbad
  rw [hm] at hfrom ⊢
  exact (takes_expect opening (sound_cons (h.sound m hb) ms)).bind_refuses hfrom

/-- What stands in front of something sound is sound, whether it is there or not. -/
theorem enclosed_append (opening close : Punctuator) (xs : List Lexeme) {l : Lexeme}
    {ls : List Lexeme} (hs : Sound (l :: ls)) :
    ∃ m ms, enclosed opening close xs ++ l :: ls = m :: ms ∧ Sound (m :: ms) ∧
      (m = .punctuator opening ∨ m = l) := by
  by_cases h : xs = []
  · exact ⟨l, ls, by rw [enclosed, if_pos h, List.nil_append], hs, Or.inr rfl⟩
  · exact ⟨_, _, by rw [enclosed, if_neg h, List.cons_append], sound_punctuator _ _, Or.inl rfl⟩

theorem Items.enclosed_cases (h : Items n item close begins written read xs)
    (opening : Punctuator) (rest : List Lexeme) :
    (xs = [] ∧ enclosed opening close (xs.flatMap written) ++ rest = rest) ∨
      (xs ≠ [] ∧ enclosed opening close (xs.flatMap written) ++ rest =
        .punctuator opening :: (xs.flatMap written ++ .punctuator close :: rest)) := by
  cases xs with
  | nil => exact Or.inl ⟨rfl, rfl⟩
  | cons c xs =>
    obtain ⟨l, ls, hc, -⟩ := h.head c List.mem_cons_self
    refine Or.inr ⟨by simp, ?_⟩
    rw [enclosed, if_neg (by simp [hc])]
    simp

/-- What a reader does with the items of a repetition that may be absent. -/
theorem Items.takes_optional {g : List α → TokenReader β}
    (h : Items n item close begins written read xs) {opening : Punctuator} (hn : xs.length ≤ n)
    (hl : l ≠ .punctuator opening) (hs : Sound (l :: ls))
    (hg : Takes n (g (xs.map read)) (l :: ls) y rest) :
    Takes n (isAt opening >>= fun c =>
        if c = true then many opening item close >>= g else Pure.pure [] >>= g)
      (enclosed opening close (xs.flatMap written) ++ l :: ls) y rest := by
  rcases h.enclosed_cases opening (l :: ls) with ⟨rfl, hls⟩ | ⟨hne, hls⟩
  · rw [hls]
    exact (takes_isAt_absent hl ls).bind_false ((Takes.pure [] _).bind hg)
  · rw [hls]
    exact (takes_isAt_self opening _).bind_true ((h.takes_many opening hne hn hs).bind hg)

theorem Items.takes_optionalMany (h : Items n item close begins written read xs)
    {opening : Punctuator} (hn : xs.length ≤ n) (hl : l ≠ .punctuator opening) (hs : Sound (l :: ls)) :
    Takes n (optionalMany opening item close)
      (enclosed opening close (xs.flatMap written) ++ l :: ls) (xs.map read) (l :: ls) := by
  have hg := h.takes_optional (g := Pure.pure) hn hl hs (.pure _ _)
  simpa only [optionalMany, bind_pure] using hg

/-- An item that is refused makes the whole repetition refused. -/
theorem Items.refuses_optionalMany (h : Items n item close begins written read xs)
    (opening : Punctuator) (hn : xs.length < n) (hl : begins l)
    (hbad : ∀ k, 0 < k → Refuses n (itemsFrom close item k) (l :: ls) f) :
    Refuses n (optionalMany opening item close)
      (.punctuator opening :: (xs.flatMap written ++ l :: ls)) f :=
  (takes_isAt_self opening _).bind_refuses (h.refuses_many opening hn hl hbad)

end Repetition

/-! ## Whole texts -/

theorem takes_checkCurrent {l : Lexeme} (h : Sound (l :: ls)) :
    Takes n checkCurrent (l :: ls) () (l :: ls) := by
  cases l with
  | fault f => exact absurd rfl (h f)
  | _ => rfl

theorem ofTokens_unplaced (ls : List Lexeme) :
    Document.ofTokens (unplaced ls) = (readDocument ls.length (unplaced ls)).map (·.1) := by
  rw [Document.ofTokens, unplaced, List.length_map]
  rfl

/-- A text that spells lexemes is read as these are. -/
theorem Document.parse_of_spelling {text : String} (h : Spelling ls text.toList) :
    Document.parse text = Document.ofTokens (unplaced (ls ++ [.eof])) := by
  have htokens : (tokens text).map Token.unplaced = unplaced (lexemesOf text) := by
    rw [lexemesOf, unplaced, List.map_map]
    rfl
  rw [Document.parse, htokens, lexemesOf_spelling h]

end RequestBook
