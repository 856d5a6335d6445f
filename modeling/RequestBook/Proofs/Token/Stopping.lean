import RequestBook.Proofs.Token.Reading

/-!
# What a reader stops at

A reader that goes on as long as it can takes a thing in front of everything that does not go on
with it. What must not follow is said as a list of punctuators, and the repetitions of things of one
kind are taken under the condition that each of them has on what follows.
-/

namespace RequestBook

open TokenReader

/-- No fault and none of the punctuators. -/
structure Lexeme.Free (ps : List Punctuator) (l : Lexeme) : Prop where
  sound : ∀ f, l ≠ .fault f
  ne : ∀ p ∈ ps, l ≠ .punctuator p

/-- There is a lexeme in view, and it goes on with none of the punctuators. -/
def Stops (ps : List Punctuator) (ls : List Lexeme) : Prop :=
  ∃ l more, ls = l :: more ∧ l.Free ps

/-- What is there stops at once, if anything is there. -/
def StopsIfAny (ps : List Punctuator) (ls : List Lexeme) : Prop := ls = [] ∨ Stops ps ls

variable {α : Type} {n k : Nat} {p : Punctuator} {ps qs : List Punctuator} {l : Lexeme}
  {ls rest : List Lexeme} {x : α} {s : String}

theorem Lexeme.free_punctuator (h : p ∉ ps) : (Lexeme.punctuator p).Free ps :=
  ⟨by simp, fun q hq he => h (by cases he; exact hq)⟩

theorem Lexeme.free_name (ps : List Punctuator) (s : String) : (Lexeme.name s).Free ps :=
  ⟨by simp, by simp⟩

theorem stops_punctuator (h : p ∉ ps) (ls : List Lexeme) : Stops ps (.punctuator p :: ls) :=
  ⟨_, _, rfl, Lexeme.free_punctuator h⟩

theorem stops_name (ps : List Punctuator) (s : String) (ls : List Lexeme) :
    Stops ps (.name s :: ls) :=
  ⟨_, _, rfl, Lexeme.free_name ps s⟩

namespace Stops

theorem sound (h : Stops ps ls) : Sound ls := by
  obtain ⟨l, more, rfl, hl⟩ := h
  exact sound_cons hl.sound more

theorem mono (h : Stops ps ls) (hsub : qs ⊆ ps) : Stops qs ls := by
  obtain ⟨l, more, rfl, hl⟩ := h
  exact ⟨l, more, rfl, hl.sound, fun q hq => hl.ne q (hsub hq)⟩

theorem append (h : Stops ps ls) (rest : List Lexeme) : Stops ps (ls ++ rest) := by
  obtain ⟨l, more, rfl, hl⟩ := h
  exact ⟨l, more ++ rest, rfl, hl⟩

theorem takes_isAt (h : Stops ps ls) (hp : p ∈ ps) : Takes n (isAt p) ls false ls := by
  obtain ⟨l, more, rfl, hl⟩ := h
  exact takes_isAt_absent (hl.ne p hp) more

theorem takes_skip (h : Stops ps ls) (hp : p ∈ ps) : Takes n (skip? p) ls false ls := by
  obtain ⟨l, more, rfl, hl⟩ := h
  exact takes_skip_absent (hl.ne p hp) more

end Stops

theorem StopsIfAny.append (h : StopsIfAny ps ls) (hrest : Stops ps rest) : Stops ps (ls ++ rest) := by
  rcases h with rfl | h
  · exact hrest
  · exact h.append rest

theorem stopsIfAny_enclosed {opening : Punctuator} (h : opening ∉ ps) (close : Punctuator)
    (ls : List Lexeme) : StopsIfAny ps (enclosed opening close ls) := by
  rw [enclosed]
  split
  · exact .inl rfl
  · exact .inr (stops_punctuator h _)

theorem stopsIfAny_flatMap {lexemes : α → List Lexeme} {xs : List α}
    (h : ∀ x ∈ xs, Stops ps (lexemes x)) : StopsIfAny ps (xs.flatMap lexemes) := by
  cases xs with
  | nil => exact .inl rfl
  | cons x xs => exact .inr ((h x List.mem_cons_self).append _)

/-! ## Keywords -/

theorem takes_skipKeyword (s : String) (h : Sound rest) :
    Takes n (skipKeyword? s) (.name s :: rest) true rest := by
  refine (takes_current _ _).bind ?_
  rw [if_pos (beq_self_eq_true _)]
  exact (takes_advance _ h).bind (.pure true rest)

theorem takes_skipKeyword_absent (hl : l ≠ .name s) (ls : List Lexeme) :
    Takes n (skipKeyword? s) (l :: ls) false (l :: ls) := by
  refine (takes_current _ _).bind ?_
  rw [if_neg (by simpa using hl)]
  exact .pure false _

theorem takes_expectKeyword (s : String) (h : Sound rest) :
    Takes n (expectKeyword s) (.name s :: rest) () rest :=
  (takes_skipKeyword s h).bind (.pure () rest)

/-! ## Repetitions -/

section Repetition

variable {item : TokenReader α} {close : Punctuator} {lexemes : α → List Lexeme} {xs : List α}

/-- Items that are each taken in front of what stops them. -/
theorem items_of_stops (hclose : close ∉ ps) (hstart : ∀ x ∈ xs, Stops (close :: ps) (lexemes x))
    (htakes : ∀ x ∈ xs, ∀ rest, Stops ps rest → Takes n item (lexemes x ++ rest) x rest) :
    Items n item close (Lexeme.Free (close :: ps)) lexemes id xs where
  apart h := h.ne close List.mem_cons_self rfl
  sound _ h := h.sound
  head x hx := by
    obtain ⟨l, more, hl, hfree⟩ := hstart x hx
    exact ⟨l, more, hl, hfree⟩
  takes x hx l ls hl := by
    refine htakes x hx (l :: ls) ?_
    rcases hl with hl | rfl
    · exact ⟨l, ls, rfl, hl.sound, fun p hp => hl.ne p (List.mem_cons_of_mem close hp)⟩
    · exact stops_punctuator hclose ls

theorem length_le_flatMap_of_stops (hstart : ∀ x ∈ xs, Stops ps (lexemes x)) :
    xs.length ≤ (xs.flatMap lexemes).length := by
  induction xs with
  | nil => exact Nat.zero_le _
  | cons x xs ih =>
    obtain ⟨l, more, hl, -⟩ := hstart x List.mem_cons_self
    have htail := ih fun y hy => hstart y (List.mem_cons_of_mem x hy)
    simp only [List.flatMap_cons, hl, List.length_append, List.length_cons]
    omega

theorem flatMap_ne_nil_of_stops (hne : xs ≠ []) (hstart : ∀ x ∈ xs, Stops ps (lexemes x)) :
    xs.flatMap lexemes ≠ [] := by
  obtain ⟨x, more, rfl⟩ := List.exists_cons_of_ne_nil hne
  obtain ⟨l, ls, hl, -⟩ := hstart x List.mem_cons_self
  simp [hl]

variable (ps) (hclose : close ∉ ps) (hstart : ∀ x ∈ xs, Stops (close :: ps) (lexemes x))
  (htakes : ∀ x ∈ xs, ∀ rest, Stops ps rest → Takes n item (lexemes x ++ rest) x rest)

include hclose hstart htakes

theorem takes_any (opening : Punctuator) (hn : (xs.flatMap lexemes).length < n)
    (hrest : Sound rest) :
    Takes n (any opening item close)
      (.punctuator opening :: (xs.flatMap lexemes ++ .punctuator close :: rest)) xs rest := by
  have hitems := items_of_stops hclose hstart htakes
  have hlength := length_le_flatMap_of_stops hstart
  have hall : Takes n (bounded (itemsUntil close item)) _ _ rest :=
    takes_bounded (hitems.takes_itemsUntil (k := n) (by omega) hrest)
  rw [List.map_id] at hall
  exact (takes_expect opening (hitems.sound_flatMap rest)).bind hall

theorem takes_many (opening : Punctuator) (hne : xs ≠ []) (hn : (xs.flatMap lexemes).length ≤ n)
    (hrest : Sound rest) :
    Takes n (many opening item close) (enclosed opening close (xs.flatMap lexemes) ++ rest) xs
      rest := by
  have hlength := length_le_flatMap_of_stops hstart
  have hmany := (items_of_stops hclose hstart htakes).takes_many opening hne (by omega) hrest
  rw [List.map_id] at hmany
  rw [enclosed, if_neg (flatMap_ne_nil_of_stops hne hstart)]
  simpa using hmany

theorem takes_optionalMany {opening : Punctuator} (hn : (xs.flatMap lexemes).length ≤ n)
    (hrest : Sound rest) (hstop : xs = [] → Stops [opening] rest) :
    Takes n (optionalMany opening item close) (enclosed opening close (xs.flatMap lexemes) ++ rest)
      xs rest := by
  by_cases hne : xs = []
  · rw [hne]
    exact ((hstop hne).takes_isAt List.mem_cons_self).bind_false (.pure [] rest)
  · have hmany := takes_many ps hclose hstart htakes opening hne hn hrest
    rw [enclosed, if_neg (flatMap_ne_nil_of_stops hne hstart), List.cons_append] at hmany ⊢
    exact (takes_isAt_self opening _).bind_true hmany

end Repetition

/-- Items that each begin with one punctuator. -/
theorem takes_itemsWhile (ps : List Punctuator) {item : TokenReader α}
    {lexemes : α → List Lexeme} {start : Punctuator} {xs : List α} (hsub : ps ⊆ qs)
    (hstart : start ∉ ps) (hmem : start ∈ qs)
    (hbegin : ∀ x ∈ xs, ∃ more, lexemes x = .punctuator start :: more)
    (htakes : ∀ x ∈ xs, ∀ rest, Stops ps rest → Takes n item (lexemes x ++ rest) x rest)
    (hk : xs.length ≤ k) (hrest : Stops qs rest) :
    Takes n (itemsWhile start item k) (xs.flatMap lexemes ++ rest) xs rest := by
  induction xs generalizing k with
  | nil =>
    cases k with
    | zero => exact .pure [] rest
    | succ k => exact (hrest.takes_isAt hmem).bind_false (.pure [] rest)
  | cons x xs ih =>
    obtain ⟨k, rfl⟩ := Nat.exists_eq_succ_of_ne_zero (Nat.ne_of_gt (Nat.zero_lt_of_lt hk))
    have htail := ih (fun y hy => hbegin y (List.mem_cons_of_mem x hy))
      (fun y hy => htakes y (List.mem_cons_of_mem x hy)) (Nat.le_of_succ_le_succ hk)
    have hnext : Stops ps (xs.flatMap lexemes ++ rest) := by
      refine StopsIfAny.append (stopsIfAny_flatMap fun y hy => ?_) (hrest.mono hsub)
      obtain ⟨more, hmore⟩ := hbegin y (List.mem_cons_of_mem x hy)
      rw [hmore]
      exact stops_punctuator hstart more
    have hitem := htakes x List.mem_cons_self _ hnext
    obtain ⟨more, hmore⟩ := hbegin x List.mem_cons_self
    rw [List.flatMap_cons, List.append_assoc]
    rw [hmore] at hitem ⊢
    exact (takes_isAt_self start _).bind_true (hitem.bind (htail.bind (.pure _ rest)))

/-! ## Words with a punctuator between neighbours -/

/-- Words with a punctuator between neighbours. -/
def delimitedLexemes (sep : Punctuator) (words : List String) : List Lexeme :=
  [Lexeme.punctuator sep].intercalate (words.map fun s => [.name s])

theorem delimitedLexemes_singleton (sep : Punctuator) (s : String) :
    delimitedLexemes sep [s] = [.name s] := List.intercalate_singleton

theorem delimitedLexemes_cons_cons (sep : Punctuator) (s t : String) (words : List String) :
    delimitedLexemes sep (s :: t :: words) =
      .name s :: .punctuator sep :: delimitedLexemes sep (t :: words) := rfl

theorem exists_delimitedLexemes (sep : Punctuator) (s : String) (words : List String) :
    ∃ more, delimitedLexemes sep (s :: words) = .name s :: more := by
  cases words with
  | nil => exact ⟨[], delimitedLexemes_singleton sep s⟩
  | cons t words => exact ⟨_, delimitedLexemes_cons_cons sep s t words⟩

theorem sound_delimitedLexemes (sep : Punctuator) {words : List String} (h : words ≠ [])
    (rest : List Lexeme) : Sound (delimitedLexemes sep words ++ rest) := by
  obtain ⟨s, more, rfl⟩ := List.exists_cons_of_ne_nil h
  obtain ⟨ls, hls⟩ := exists_delimitedLexemes sep s more
  rw [hls]
  exact sound_name _ _

theorem length_le_delimitedLexemes (sep : Punctuator) (words : List String) :
    words.length ≤ (delimitedLexemes sep words).length := by
  induction words with
  | nil => exact Nat.zero_le _
  | cons s words ih =>
    cases words with
    | nil => rw [delimitedLexemes_singleton]; exact Nat.le_refl _
    | cons t words =>
      rw [delimitedLexemes_cons_cons]
      simp only [List.length_cons] at ih ⊢
      omega

section Delimited

variable {item : TokenReader α} (word : α → String) (sep : Punctuator) {xs : List α}
  (htakes : ∀ x ∈ xs, ∀ rest, Sound rest → Takes n item (.name (word x) :: rest) x rest)
  (hne : xs ≠ []) (hrest : Stops [sep] rest)

include htakes hne hrest

theorem takes_itemsSeparated (hk : xs.length ≤ k) :
    Takes n (itemsSeparated sep item k) (delimitedLexemes sep (xs.map word) ++ rest) xs rest := by
  induction xs generalizing k with
  | nil => exact absurd rfl hne
  | cons x xs ih =>
    obtain ⟨k, rfl⟩ := Nat.exists_eq_succ_of_ne_zero (Nat.ne_of_gt (Nat.zero_lt_of_lt hk))
    have hitem := htakes x List.mem_cons_self
    cases xs with
    | nil =>
      rw [List.map_singleton, delimitedLexemes_singleton]
      exact (hitem rest hrest.sound).bind
        ((hrest.takes_skip List.mem_cons_self).bind_false (.pure [x] rest))
    | cons y xs =>
      have htail := ih (fun z hz => htakes z (List.mem_cons_of_mem x hz)) (by simp)
        (Nat.le_of_succ_le_succ hk)
      have hsound := sound_delimitedLexemes sep (List.cons_ne_nil (word y) (xs.map word)) rest
      rw [List.map_cons, List.map_cons, delimitedLexemes_cons_cons]
      exact (hitem _ (sound_punctuator _ _)).bind
        ((takes_skip sep hsound).bind_true (htail.bind (.pure _ rest)))

theorem takes_delimited (hn : (delimitedLexemes sep (xs.map word)).length ≤ n) :
    Takes n (delimited sep item) (delimitedLexemes sep (xs.map word) ++ rest) xs rest := by
  have hlength := length_le_delimitedLexemes sep (xs.map word)
  rw [List.length_map] at hlength
  have hall := takes_bounded (takes_itemsSeparated word sep htakes hne hrest (k := n) (by omega))
  obtain ⟨x, xs, rfl⟩ := List.exists_cons_of_ne_nil hne
  obtain ⟨more, hmore⟩ := exists_delimitedLexemes sep (word x) (xs.map word)
  rw [List.map_cons, hmore] at hall ⊢
  exact (takes_skip_absent (by simp) _).bind hall

end Delimited

end RequestBook
