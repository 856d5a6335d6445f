import RequestBook.Proofs.Outcomes
import RequestBook.Proofs.Token.Spelling

/-!
# Numbers

How far a number goes is decided by its own characters and by the one behind them. So the text of a
number that was read is read as that number again, in front of everything that ends a token.
-/

namespace RequestBook

open Reading

/-- What neither continues a number nor makes it run on. -/
def Halts (cs : List Char) : Prop :=
  ∀ c ∈ cs.head?, c.isDigit = false ∧ c ≠ '.' ∧ isNameStart c = false

theorem halts_of_endsToken {cs : List Char} (h : endsToken cs = true) : Halts cs := by
  cases cs with
  | nil => simp [Halts]
  | cons c cs =>
    simp only [endsToken, Bool.and_eq_true, Bool.not_eq_true', bne_iff_ne] at h
    obtain ⟨⟨hname, hpoint⟩, -⟩ := h
    have hdigit : c.isDigit = false := by
      simp only [isNameContinue, Char.isAlphanum, Bool.or_eq_false_iff] at hname
      exact hname.1.2
    have hstart : isNameStart c = false := by
      by_contra hs
      rw [isNameContinue_of_isNameStart (Bool.not_eq_false _ ▸ hs)] at hname
      cases hname
    intro d hd
    obtain rfl := Option.some.inj hd
    exact ⟨hdigit, hpoint, hstart⟩

variable {a b rest cs : List Char} {k m : Nat}

/-! ## Runs of digits -/

/-- A run that ends inside of `a` does not depend on what follows. -/
theorem takeWhile_append_congr {p : Char → Bool} (hrest : ∀ c ∈ rest.head?, p c = false)
    (h : ((a ++ b).takeWhile p).length ≤ a.length) :
    (a ++ rest).takeWhile p = (a ++ b).takeWhile p := by
  induction a with
  | nil =>
    have hb : b.takeWhile p = [] := List.length_eq_zero_iff.mp (Nat.le_zero.mp h)
    cases rest with
    | nil => rw [List.nil_append, List.nil_append, hb, List.takeWhile_nil]
    | cons c rest =>
      rw [List.nil_append, List.nil_append, hb, List.takeWhile_cons_of_neg (by simp [hrest c rfl])]
  | cons c a ih =>
    by_cases hc : p c = true
    · rw [List.cons_append, List.cons_append, List.takeWhile_cons_of_pos hc] at *
      rw [List.takeWhile_cons_of_pos hc, ih (Nat.le_of_succ_le_succ h)]
    · rw [List.cons_append, List.cons_append, List.takeWhile_cons_of_neg hc,
        List.takeWhile_cons_of_neg hc]

theorem digitsEnd_eq_ok : digitsEnd cs k = .ok m ↔
    ((cs.drop k).takeWhile Char.isDigit).length = m - k ∧ k < m := by
  rw [digitsEnd]
  split
  · next h =>
    rw [h]
    refine iff_of_false (by simp) ?_
    rintro ⟨hzero, hlt⟩
    omega
  · next n h =>
    rw [Except.ok.injEq]
    have hpos : ((cs.drop k).takeWhile Char.isDigit).length ≠ 0 := h
    omega

theorem lt_of_digitsEnd (h : digitsEnd cs k = .ok m) : k < m := (digitsEnd_eq_ok.mp h).2

theorem digitsEnd_append (h : digitsEnd (a ++ b) k = .ok m) (hm : m ≤ a.length)
    (hrest : Halts rest) : digitsEnd (a ++ rest) k = .ok m := by
  obtain ⟨hrun, hlt⟩ := digitsEnd_eq_ok.mp h
  rw [digitsEnd_eq_ok]
  refine ⟨?_, hlt⟩
  rw [List.drop_append_of_le_length (by omega)] at hrun ⊢
  rw [takeWhile_append_congr (fun c hc => (hrest c hc).1), hrun]
  rw [hrun, List.length_drop]
  omega

/-! ## The parts of a number -/

theorem getElem?_append_congr {i : Nat} (hi : i < a.length) : (a ++ rest)[i]? = (a ++ b)[i]? := by
  rw [List.getElem?_append_left hi, List.getElem?_append_left hi]

theorem getElem?_append_length : (a ++ rest)[a.length]? = rest.head? := by
  rw [List.getElem?_append_right (Nat.le_refl _), Nat.sub_self, List.head?_eq_getElem?]

theorem lt_of_integerEnd (h : integerEnd cs = .ok m) : 0 < m := by
  unfold integerEnd at h
  dsimp only at h
  generalize (if cs.head? = some '-' then 1 else 0) = signed at h
  split at h
  · split at h
    · split at h <;> cases h
      exact Nat.zero_lt_succ signed
    · cases h
      exact Nat.zero_lt_succ signed
  · exact Nat.zero_lt_of_lt (lt_of_digitsEnd h)

theorem integerEnd_append (h : integerEnd (a ++ b) = .ok m) (hm : m ≤ a.length)
    (hrest : Halts rest) : integerEnd (a ++ rest) = .ok m := by
  have hpos := lt_of_integerEnd h
  have hhead : (a ++ rest).head? = (a ++ b).head? := by
    rw [List.head?_eq_getElem?, List.head?_eq_getElem?, getElem?_append_congr (by omega)]
  unfold integerEnd at h ⊢
  dsimp only at h ⊢
  rw [hhead]
  generalize (if (a ++ b).head? = some '-' then 1 else 0) = signed at h ⊢
  split at h
  · next hzero =>
    -- a zero stands alone, so that only the character behind it counts
    obtain rfl : m = signed + 1 := by
      split at h
      · split at h <;> cases h
        rfl
      · cases h
        rfl
    rw [getElem?_append_congr (by omega), if_pos hzero]
    by_cases hlast : signed + 1 = a.length
    · rw [hlast, getElem?_append_length]
      split
      · next c hc => rw [if_neg (by simp [(hrest c hc).1])]
      · rfl
    · rw [getElem?_append_congr (by omega)]
      exact h
  · next hzero =>
    have hlt := lt_of_digitsEnd h
    rw [getElem?_append_congr (by omega), if_neg hzero]
    exact digitsEnd_append h hm hrest

theorem le_of_fractionEnd (h : fractionEnd cs k = .ok m) : k ≤ m := by
  unfold fractionEnd at h
  split at h
  · have := lt_of_digitsEnd h
    omega
  · cases h
    omega

theorem fractionEnd_append (h : fractionEnd (a ++ b) k = .ok m) (hm : m ≤ a.length)
    (hrest : Halts rest) : fractionEnd (a ++ rest) k = .ok m := by
  unfold fractionEnd at h ⊢
  split at h
  · next hpoint =>
    have hlt := lt_of_digitsEnd h
    rw [getElem?_append_congr (by omega), if_pos hpoint]
    exact digitsEnd_append h hm hrest
  · next hpoint =>
    obtain rfl : k = m := by cases h; rfl
    rw [if_neg]
    by_cases hlast : k = a.length
    · rw [hlast, getElem?_append_length]
      exact fun hc => (hrest _ hc).2.1 rfl
    · rwa [getElem?_append_congr (by omega)]

theorem le_of_exponentEnd (h : exponentEnd cs k = .ok m) : k ≤ m := by
  unfold exponentEnd at h
  split at h
  · split at h
    · have := lt_of_digitsEnd h
      omega
    · have := lt_of_digitsEnd h
      omega
  · cases h
    omega

theorem exponentEnd_append (h : exponentEnd (a ++ b) k = .ok m) (hm : m ≤ a.length)
    (hrest : Halts rest) : exponentEnd (a ++ rest) k = .ok m := by
  unfold exponentEnd at h ⊢
  split at h
  · next hletter =>
    have hlt : k + 1 < m := by
      split at h
      · have := lt_of_digitsEnd h
        omega
      · exact lt_of_digitsEnd h
    rw [getElem?_append_congr (by omega), if_pos hletter, getElem?_append_congr (by omega)]
    split
    · next hsign =>
      rw [if_pos hsign] at h
      exact digitsEnd_append h hm hrest
    · next hsign =>
      rw [if_neg hsign] at h
      exact digitsEnd_append h hm hrest
  · next hletter =>
    obtain rfl : k = m := by cases h; rfl
    rw [if_neg]
    by_cases hlast : k = a.length
    · rw [hlast, getElem?_append_length]
      rintro (hc | hc)
      · exact absurd (hrest _ hc).2.2 (by decide)
      · exact absurd (hrest _ hc).2.2 (by decide)
    · rwa [getElem?_append_congr (by omega)]

/-! ## Whole numbers -/

/-- A number goes through its whole part, a fraction and an exponent, and does not run on. -/
theorem number_eq_lexeme {l : Lexeme} {size : Nat} : number cs = .lexeme l size ↔
    ∃ whole part, integerEnd cs = .ok whole ∧ fractionEnd cs whole = .ok part ∧
      exponentEnd cs part = .ok size ∧ runsOn cs[size]? = false ∧
      l = if size = whole then .int (String.ofList (cs.take size))
        else .float (String.ofList (cs.take size)) := by
  rw [number]
  cases hwhole : integerEnd cs with
  | error e => simp [bind, Except.bind]
  | ok whole =>
    cases hpart : fractionEnd cs whole with
    | error e => simp [bind, Except.bind, hpart]
    | ok part =>
      cases hsize : exponentEnd cs part with
      | error e => simp [bind, Except.bind, hpart, hsize]
      | ok size' =>
        by_cases hruns : runsOn cs[size']? = true
        · simp [bind, Except.bind, hpart, hsize, hruns]
          rintro rfl
          simp [hruns]
        · simp [bind, Except.bind, pure, Except.pure, hpart, hsize, hruns]
          constructor
          · rintro ⟨rfl, rfl⟩
            exact ⟨rfl, by simpa using hruns, rfl⟩
          · rintro ⟨rfl, -, rfl⟩
            exact ⟨rfl, rfl⟩

/-- A number that ends where `a` does is the same in front of all that ends a token. -/
theorem number_append {l : Lexeme} (h : number (a ++ b) = .lexeme l a.length)
    (hrest : endsToken rest = true) : number (a ++ rest) = .lexeme l a.length := by
  have hhalts := halts_of_endsToken hrest
  rw [number_eq_lexeme] at h ⊢
  obtain ⟨whole, part, hwhole, hpart, hsize, -, hl⟩ := h
  have hle := le_of_fractionEnd hpart
  have hle' := le_of_exponentEnd hsize
  refine ⟨whole, part, integerEnd_append hwhole (by omega) hhalts,
    fractionEnd_append hpart hle' hhalts, exponentEnd_append hsize (Nat.le_refl _) hhalts, ?_, ?_⟩
  · rw [getElem?_append_length]
    cases hc : rest.head? with
    | none => rfl
    | some c =>
      obtain ⟨-, hpoint, hstart⟩ := hhalts c hc
      simp [runsOn, hpoint, hstart]
  · rw [List.take_left] at hl ⊢
    exact hl

/-! ## The characters of a number -/

/-- Before `m` there are characters, and none of them ends a line. -/
def OneLine (cs : List Char) (m : Nat) : Prop := ∀ i < m, ∃ c, cs[i]? = some c ∧ c ≠ '\n'

theorem oneLine_digitsEnd (hk : OneLine cs k) (h : digitsEnd cs k = .ok m) : OneLine cs m := by
  obtain ⟨hrun, hlt⟩ := digitsEnd_eq_ok.mp h
  intro i hi
  by_cases hik : i < k
  · exact hk i hik
  · have hmem : i - k < ((cs.drop k).takeWhile Char.isDigit).length := by omega
    have hdigit : (((cs.drop k).takeWhile Char.isDigit)[i - k]).isDigit = true :=
      List.all_eq_true.mp List.all_takeWhile _ (List.getElem_mem hmem)
    refine ⟨((cs.drop k).takeWhile Char.isDigit)[i - k], ?_, ?_⟩
    · have hprefix := List.prefix_iff_getElem?.mp (List.takeWhile_prefix (l := cs.drop k) Char.isDigit)
      rw [← hprefix (i - k) hmem, List.getElem?_drop, Nat.add_sub_cancel' (by omega)]
    · intro hc
      rw [hc] at hdigit
      cases hdigit

theorem oneLine_succ (hk : OneLine cs k) {c : Char} (hc : cs[k]? = some c) (hline : c ≠ '\n') :
    OneLine cs (k + 1) := by
  intro i hi
  by_cases hik : i < k
  · exact hk i hik
  · obtain rfl : i = k := by omega
    exact ⟨c, hc, hline⟩

theorem oneLine_integerEnd (h : integerEnd cs = .ok m) : OneLine cs m := by
  unfold integerEnd at h
  dsimp only at h
  have hsigned : OneLine cs (if cs.head? = some '-' then 1 else 0) := by
    split
    · next hhead =>
      rw [List.head?_eq_getElem?] at hhead
      exact oneLine_succ (fun i hi => absurd hi (Nat.not_lt_zero i)) hhead (by decide)
    · exact fun i hi => absurd hi (Nat.not_lt_zero i)
  generalize (if cs.head? = some '-' then 1 else 0) = signed at h hsigned
  split at h
  · next hzero =>
    obtain rfl : m = signed + 1 := by
      split at h
      · split at h <;> cases h
        rfl
      · cases h
        rfl
    exact oneLine_succ hsigned hzero (by decide)
  · exact oneLine_digitsEnd hsigned h

theorem oneLine_fractionEnd (hk : OneLine cs k) (h : fractionEnd cs k = .ok m) : OneLine cs m := by
  unfold fractionEnd at h
  split at h
  · next hpoint => exact oneLine_digitsEnd (oneLine_succ hk hpoint (by decide)) h
  · cases h
    exact hk

theorem oneLine_exponentEnd (hk : OneLine cs k) (h : exponentEnd cs k = .ok m) : OneLine cs m := by
  unfold exponentEnd at h
  split at h
  · next hletter =>
    have hk' : OneLine cs (k + 1) := by
      rcases hletter with hc | hc
      · exact oneLine_succ hk hc (by decide)
      · exact oneLine_succ hk hc (by decide)
    split at h
    · next hsign =>
      have hk'' : OneLine cs (k + 2) := by
        rcases hsign with hc | hc
        · exact oneLine_succ hk' hc (by decide)
        · exact oneLine_succ hk' hc (by decide)
      exact oneLine_digitsEnd hk'' h
    · exact oneLine_digitsEnd hk' h
  · cases h
    exact hk

theorem oneLine_number {l : Lexeme} {size : Nat} (h : number cs = .lexeme l size) :
    0 < size ∧ OneLine cs size := by
  obtain ⟨whole, part, hwhole, hpart, hsize, -, -⟩ := number_eq_lexeme.mp h
  have hpos := lt_of_integerEnd hwhole
  have hle := le_of_fractionEnd hpart
  have hle' := le_of_exponentEnd hsize
  exact ⟨by omega, oneLine_exponentEnd (oneLine_fractionEnd (oneLine_integerEnd hwhole) hpart) hsize⟩

theorem OneLine.take (h : OneLine cs m) : (cs.take m).length = m ∧ ∀ c ∈ cs.take m, c ≠ '\n' := by
  constructor
  · cases m with
    | zero => simp
    | succ m =>
      obtain ⟨c, hc, -⟩ := h m (Nat.lt_succ_self m)
      have hlt := (List.getElem?_eq_some_iff.mp hc).1
      rw [List.length_take]
      omega
  · intro c hc
    obtain ⟨i, hi, rfl⟩ := List.mem_take_iff_getElem.mp hc
    obtain ⟨d, hd, hline⟩ := h i (by omega)
    rw [List.getElem?_eq_getElem (by omega), Option.some.injEq] at hd
    rwa [hd]

/-! ## Numbers as they are written -/

/-- What a number begins with. -/
def OpensNumber (c : Char) : Prop := c.isDigit = true ∨ c = '-'

instance (c : Char) : Decidable (OpensNumber c) :=
  inferInstanceAs (Decidable (c.isDigit = true ∨ c = '-'))

namespace OpensNumber

variable {c : Char}

theorem ne (h : OpensNumber c) {d : Char} (hd : ¬ OpensNumber d) : c ≠ d := by
  rintro rfl
  exact hd h

theorem not_isIgnored (h : OpensNumber c) : isIgnored c = false := by
  have hne (d : Char) (hd : ¬ OpensNumber d) : (c == d) = false := beq_eq_false_iff_ne.mpr (h.ne hd)
  simp only [isIgnored, hne ' ' (by decide), hne '\t' (by decide), hne ',' (by decide),
    hne '\n' (by decide), hne '\r' (by decide), hne '\ufeff' (by decide), Bool.or_false]

theorem ofChar?_eq_none (h : OpensNumber c) : Punctuator.ofChar? c = none := by
  unfold Punctuator.ofChar?
  split
  all_goals first
    | rfl
    | exact absurd h (by decide)

theorem reading (h : OpensNumber c) (cs : List Char) : of c cs = number (c :: cs) := by
  have hpoint : c ≠ '.' := h.ne (by decide)
  have hquote : c ≠ '"' := h.ne (by decide)
  rw [of, h.ofChar?_eq_none]
  dsimp only
  have hopens : c.isDigit = true ∨ c = '-' := h
  rw [if_neg (fun hc => hpoint hc.1), if_neg hquote, if_pos hopens]

/-- A number that was read is written by its text. -/
theorem written (h : OpensNumber c) {l : Lexeme} {size : Nat}
    (hnumber : number (c :: cs) = .lexeme l size) :
    ∃ text : String, (l = .int text ∨ l = .float text) ∧ Written l text.toList := by
  obtain ⟨hpos, hline⟩ := oneLine_number hnumber
  obtain ⟨whole, -, -, -, -, -, hl⟩ := number_eq_lexeme.mp hnumber
  obtain ⟨hlength, hplain⟩ := hline.take
  have hsplit : (c :: cs).take size ++ (c :: cs).drop size = c :: cs := List.take_append_drop _ _
  obtain ⟨size, rfl⟩ := Nat.exists_eq_succ_of_ne_zero (Nat.ne_of_gt hpos)
  rw [List.take_succ_cons] at hsplit hlength hl hplain
  refine ⟨String.ofList (c :: cs.take size), ?_, ?_⟩
  · rw [hl]
    split
    · exact .inl rfl
    · exact .inr rfl
  · rw [String.toList_ofList]
    refine written_of_line hplain h.not_isIgnored (h.ne (by decide)) fun rest hrest => ?_
    rw [h.reading, ← List.cons_append]
    rw [← hsplit, ← hlength] at hnumber
    have happend := number_append hnumber hrest
    rwa [List.length_cons] at happend

end OpensNumber

end RequestBook
