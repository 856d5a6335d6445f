import RequestBook.Proofs.Json.Breaks
import RequestBook.Proofs.Json.Writing

/-!
# A value in a longer text

What a text is read as does not change with what is written behind it, as long as no word or number
goes on there. So a text of a value, with blanks around the value, can be put where a longer text
needs one.
-/

namespace RequestBook.Json

open TextReader Text

variable {cs text rest : List Char}

theorem unblanked_cons_append {c : Char} (h : unblanked cs = c :: rest) (more : List Char) :
    unblanked (cs ++ more) = c :: (rest ++ more) := by
  obtain ⟨blanks, hblanks, hcs⟩ : ∃ blanks, (∀ b ∈ blanks, isBlank b = true) ∧
      cs = blanks ++ unblanked cs :=
    ⟨cs.takeWhile isBlank, fun _ => List.mem_takeWhile_imp, List.takeWhile_append_dropWhile.symm⟩
  have hc : isBlank c = false := by
    have hhead := List.head?_dropWhile_not isBlank cs
    rw [unblanked] at h
    rw [h] at hhead
    simpa using hhead
  rw [hcs, h, List.append_assoc, unblanked, List.dropWhile_append_of_pos hblanks, List.cons_append,
    List.dropWhile_cons_of_neg (by simp [hc])]

/-! ## Strings -/

theorem drop_append_of_quotes {n : Nat} (h : Quotes (cs.drop n) text rest) (more : List Char) :
    (cs ++ more).drop n = cs.drop n ++ more := by
  have hsize : n < cs.length := by
    by_contra hle
    exact h.ne_nil (List.drop_eq_nil_of_le (Nat.le_of_not_lt hle))
  exact List.drop_append_of_le_length (Nat.le_of_lt hsize)

theorem quad_append (hend : ¬ (cs.drop 4).isEmpty) (more : List Char) :
    (cs ++ more).take 4 = cs.take 4 ∧ (cs ++ more).drop 4 = cs.drop 4 ++ more ∧
      ¬ ((cs ++ more).drop 4).isEmpty := by
  have hsize : 4 ≤ cs.length := by
    simp only [List.isEmpty_iff, List.drop_eq_nil_iff] at hend
    omega
  have hdrop : (cs ++ more).drop 4 = cs.drop 4 ++ more := List.drop_append_of_le_length hsize
  refine ⟨List.take_append_of_le_length hsize, hdrop, ?_⟩
  rw [List.isEmpty_iff] at hend ⊢
  rw [hdrop]
  exact List.append_ne_nil_of_left_ne_nil hend more

/-- No escape stands at the end of a text that goes on to a closing quote. -/
theorem lowSurrogate?_append {low : Option Nat} (h : lowSurrogate? cs = .ok low)
    (hquotes : low = none → Quotes cs text rest) (more : List Char) :
    lowSurrogate? (cs ++ more) = .ok low := by
  by_cases hopens : ∃ digits, cs = '\\' :: 'u' :: digits
  · obtain ⟨digits, rfl⟩ := hopens
    rw [List.cons_append, List.cons_append]
    rw [lowSurrogate?] at h ⊢
    by_cases hend : (digits.drop 4).isEmpty
    · rw [if_pos hend] at h
      cases h
      cases hquotes rfl with
      | plain _ hescape => exact absurd rfl hescape
      | escape he => cases he
      | unicode hd =>
        rw [unicodeEscape, if_pos hend] at hd
        cases hd
    · obtain ⟨htake, -, hend'⟩ := quad_append hend more
      rw [if_neg hend] at h
      rw [if_neg hend', htake]
      exact h
  · rw [lowSurrogate?_of_not hopens] at h
    cases h
    refine lowSurrogate?_of_not ?_
    rintro ⟨digits, hdigits⟩
    have hclosed := hquotes rfl
    cases cs with
    | nil => exact hclosed.ne_nil rfl
    | cons c cs =>
      cases cs with
      | nil =>
        cases hdigits
        cases hclosed with
        | plain _ hescape => exact absurd rfl hescape
      | cons d ds =>
        cases hdigits
        exact hopens ⟨ds, rfl⟩

theorem unicodeEscape_append {d : Char} {size : Nat} (h : unicodeEscape cs = .ok (d, size))
    (hquotes : Quotes (cs.drop (4 + size)) text rest) (more : List Char) :
    unicodeEscape (cs ++ more) = .ok (d, size) := by
  rw [unicodeEscape] at h ⊢
  by_cases hend : (cs.drop 4).isEmpty
  · rw [if_pos hend] at h
    cases h
  obtain ⟨htake, hdrop, hend'⟩ := quad_append hend more
  rw [if_neg hend] at h
  rw [if_neg hend', htake, hdrop]
  cases hquad : hexQuad? (cs.take 4) with
  | none =>
    rw [hquad] at h
    cases h
  | some high =>
    rw [hquad] at h
    dsimp only at h ⊢
    split_ifs at h ⊢ with hpair hlone
    · cases hlow : lowSurrogate? (cs.drop 4) with
      | error e =>
        rw [hlow] at h
        cases h
      | ok low =>
        rw [hlow] at h
        have hnone : low = none → Quotes (cs.drop 4) text rest := by
          rintro rfl
          simp only [Except.ok.injEq, Prod.mk.injEq] at h
          obtain ⟨-, rfl⟩ := h
          exact hquotes
        rw [lowSurrogate?_append hlow hnone more]
        exact h
    · exact h
    · exact h

theorem Quotes.append (h : Quotes cs text rest) (more : List Char) :
    Quotes (cs ++ more) text (rest ++ more) := by
  induction h with
  | close rest => exact .close _
  | plain hquote hescape hcontrol _ ih => exact .plain hquote hescape hcontrol ih
  | escape he _ ih => exact .escape he ih
  | unicode hd hquotes ih =>
    rw [List.cons_append, List.cons_append]
    refine .unicode (unicodeEscape_append hd hquotes more) ?_
    rw [drop_append_of_quotes hquotes]
    exact ih

/-! ## Values -/

theorem Reads.unblanked_append {part : Part} (h : Reads (unblanked cs) part rest) (more : List Char) :
    unblanked (cs ++ more) = unblanked cs ++ more := by
  obtain ⟨c, tail, hc, -⟩ := h.starts
  rw [hc, unblanked_cons_append hc]
  rfl

theorem Reads.append {part : Part} {more : List Char} (h : Reads cs part rest)
    (hmore : EndsWord more) : Reads (cs ++ more) part (rest ++ more) := by
  induction h with
  | string h => exact .string (h.append more)
  | @word cs j n h =>
    have hword := Reads.word ((wordAt?_append hmore).trans h)
    rw [List.drop_append_of_le_length (wordAt?_size_le h)] at hword
    exact hword
  | emptyList h => exact .emptyList (unblanked_cons_append h more)
  | list h ih => exact .list (h.unblanked_append more ▸ ih)
  | emptyObject h => exact .emptyObject (unblanked_cons_append h more)
  | object h ih => exact .object (h.unblanked_append more ▸ ih)
  | lastItem _ hclose ih => exact .lastItem ih (unblanked_cons_append hclose more)
  | item _ hcomma h ih ihmore =>
    exact .item ih (unblanked_cons_append hcomma more) (h.unblanked_append more ▸ ihmore)
  | named h hcolon hvalue ih =>
    exact .named (h.append more) (unblanked_cons_append hcolon more) (hvalue.unblanked_append more ▸ ih)
  | lastMember _ hclose ih => exact .lastMember ih (unblanked_cons_append hclose more)
  | another _ hcomma h ih ihmore =>
    exact .another ih (unblanked_cons_append hcomma more) (h.unblanked_append more ▸ ihmore)

/-- A JSON text says its value. -/
theorem says_of_parse {value : String} {j : Json} (h : parse value = .ok j) :
    Says value (.value j) := by
  obtain ⟨rest, hreads, hrest⟩ := reads_of_parse h
  intro more hmore
  refine ⟨rest ++ more, ?_, ?_⟩
  · rw [hreads.unblanked_append more]
    exact hreads.append hmore
  · have hblanks : ∀ c ∈ rest, isBlank c = true := List.dropWhile_eq_nil_iff.mp hrest
    rw [unblanked, unblanked, List.dropWhile_append_of_pos hblanks]

/-! ## One reading -/

theorem Quotes.unique {text' rest' : List Char} (h : Quotes cs text rest)
    (h' : Quotes cs text' rest') : text = text' ∧ rest = rest' := by
  have hbody := h.stringBody 0 0 []
  rw [h'.stringBody] at hbody
  simp only [List.reverse_nil, List.nil_append, Nat.zero_add, Except.ok.injEq, Prod.mk.injEq] at hbody
  have hlength := h.suffix.2
  have hlength' := h'.suffix.2
  refine ⟨hbody.1.symm, ?_⟩
  rw [List.suffix_iff_eq_drop.mp h.suffix.1, List.suffix_iff_eq_drop.mp h'.suffix.1, hbody.2]

/-- A text goes on with one value only. -/
theorem Reads.value_unique {j j' : Json} {rest' : List Char} (h : Reads cs (.value j) rest)
    (h' : Reads cs (.value j') rest') : j = j' ∧ rest = rest' := by
  have hsize := Nat.lt_succ_self cs.length
  have htaken : Accepts (readWithin _ _) cs j rest := h.isTaken hsize hsize
  have htaken' : Accepts (readWithin _ _) cs j' rest' := h'.isTaken hsize hsize
  obtain ⟨i, hi⟩ := htaken 0
  obtain ⟨i', hi'⟩ := htaken' 0
  rw [hi'] at hi
  cases hi
  exact ⟨rfl, rfl⟩

end RequestBook.Json
