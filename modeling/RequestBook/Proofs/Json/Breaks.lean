import RequestBook.Proofs.Json.Reading
import RequestBook.Proofs.Text.Lines

/-!
# Line breaks in a JSON text

A line break of any kind is a blank between the parts of a JSON text, and no part holds one. So a
text says the same value after all its line breaks have been turned into one kind.
-/

namespace RequestBook.Json

open TextReader Text

section Breaks

variable {c : Char} {cs rest : List Char}

theorem unblanked_normalizeBreaks (cs : List Char) :
    unblanked (normalizeBreaks cs) = normalizeBreaks (unblanked cs) := by
  fun_induction normalizeBreaks cs with
  | case1 => rfl
  | case2 cs ih => exact ih
  | case3 c cs hpair ih =>
    cases hblank : isBlank c with
    | true =>
      have hbreak : isBlank (if c = '\r' then '\n' else c) = true := by
        split_ifs
        · rfl
        · exact hblank
      rw [unblanked, unblanked, List.dropWhile_cons_of_pos hbreak,
        List.dropWhile_cons_of_pos hblank]
      exact ih
    | false =>
      have hc : c ≠ '\r' := by
        rintro rfl
        cases hblank
      rw [unblanked, unblanked, if_neg hc, List.dropWhile_cons_of_neg (by simp [hblank]),
        List.dropWhile_cons_of_neg (by simp [hblank]), normalizeBreaks_cons hc]

theorem unblanked_normalizeBreaks_cons (hc : c ≠ '\r') (h : unblanked cs = c :: rest) :
    unblanked (normalizeBreaks cs) = c :: normalizeBreaks rest := by
  rw [unblanked_normalizeBreaks, h, normalizeBreaks_cons hc]

/-! ## Words and numbers -/

theorem exists_breakless (cs : List Char) : ∃ line more, cs = line ++ more ∧
    (∀ c ∈ line, c ≠ '\r') ∧ EndsWord more ∧ EndsWord (normalizeBreaks more) := by
  induction cs with
  | nil => exact ⟨[], [], rfl, by simp, endsWord_nil, endsWord_nil⟩
  | cons c cs ih =>
    by_cases hc : c = '\r'
    · subst hc
      refine ⟨[], '\r' :: cs, rfl, by simp, ?_, ?_⟩
      · rintro d hd
        cases hd
        rfl
      · rintro d hd
        rw [head?_normalizeBreaks] at hd
        cases hd
        rfl
    · obtain ⟨line, more, rfl, hline, hmore, hmore'⟩ := ih
      refine ⟨c :: line, more, rfl, ?_, hmore, hmore'⟩
      intro d hd
      rcases List.mem_cons.mp hd with rfl | hd
      · exact hc
      · exact hline d hd

/-- Where a word or number stands, it stands with any line breaks, and as much is left. -/
theorem wordAt?_normalizeBreaks {j : Json} {n : Nat} (h : wordAt? cs = some (j, n)) :
    wordAt? (normalizeBreaks cs) = some (j, n) ∧
      (normalizeBreaks cs).drop n = normalizeBreaks (cs.drop n) := by
  obtain ⟨line, more, rfl, hline, hmore, hmore'⟩ := exists_breakless cs
  rw [wordAt?_append hmore] at h
  have hsize := wordAt?_size_le h
  rw [normalizeBreaks_append hline]
  refine ⟨(wordAt?_append hmore').trans h, ?_⟩
  rw [List.drop_append_of_le_length hsize, List.drop_append_of_le_length hsize,
    normalizeBreaks_append fun c hc => hline c (List.mem_of_mem_drop hc)]

/-! ## Strings -/

theorem exists_of_normalizeBreaks_eq {ds : List Char} (hc : c ≠ '\n')
    (h : normalizeBreaks cs = c :: ds) : ∃ ds', cs = c :: ds' ∧ ds = normalizeBreaks ds' := by
  cases cs with
  | nil => cases h
  | cons d cs =>
    by_cases hd : d = '\r'
    · have hhead := head?_normalizeBreaks (d :: cs)
      rw [h, hd] at hhead
      cases hhead
      exact absurd rfl hc
    · rw [normalizeBreaks_cons hd] at h
      cases h
      exact ⟨cs, rfl, rfl⟩

theorem hexQuad?_breakless {ds : List Char} {n : Nat} (h : hexQuad? ds = some n) :
    ds.length = 4 ∧ ∀ c ∈ ds, c ≠ '\r' := by
  have hbreak : hexValue '\r' = none := rfl
  rw [hexQuad?.eq_def] at h
  split at h
  · refine ⟨rfl, ?_⟩
    rintro e he rfl
    simp only [List.mem_cons, List.not_mem_nil, or_false] at he
    rcases he with rfl | rfl | rfl | rfl <;> simp [hbreak] at h
  · cases h

/-- Hexadecimal digits stand before any line break. -/
theorem quad_normalizeBreaks {n : Nat} (h : hexQuad? (cs.take 4) = some n) :
    (normalizeBreaks cs).take 4 = cs.take 4 ∧
      (normalizeBreaks cs).drop 4 = normalizeBreaks (cs.drop 4) := by
  obtain ⟨hlength, hline⟩ := hexQuad?_breakless h
  have hcs : normalizeBreaks cs = cs.take 4 ++ normalizeBreaks (cs.drop 4) := by
    rw [← normalizeBreaks_append hline, List.take_append_drop]
  rw [hcs]
  exact ⟨List.take_left' hlength, List.drop_left' hlength⟩

theorem lowSurrogate?_of_not (h : ¬∃ digits, cs = '\\' :: 'u' :: digits) :
    lowSurrogate? cs = .ok none := by
  rw [lowSurrogate?.eq_def]
  split
  · next digits => exact absurd ⟨digits, rfl⟩ h
  · rfl

theorem lowSurrogate?_normalizeBreaks {low : Option Nat} (h : lowSurrogate? cs = .ok low) :
    lowSurrogate? (normalizeBreaks cs) = .ok low ∧
      (low.isSome = true → (normalizeBreaks cs).drop 6 = normalizeBreaks (cs.drop 6)) := by
  by_cases hopens : ∃ digits, cs = '\\' :: 'u' :: digits
  · obtain ⟨digits, rfl⟩ := hopens
    rw [normalizeBreaks_cons (by decide), normalizeBreaks_cons (by decide)]
    rw [lowSurrogate?] at h ⊢
    by_cases hend : (digits.drop 4).isEmpty
    · have hlength := length_normalizeBreaks_le digits
      have hend' : ((normalizeBreaks digits).drop 4).isEmpty := by
        simp only [List.isEmpty_iff, List.drop_eq_nil_iff] at hend ⊢
        omega
      rw [if_pos hend] at h
      cases h
      exact ⟨if_pos hend', by simp⟩
    · rw [if_neg hend] at h
      cases hquad : hexQuad? (digits.take 4) with
      | none =>
        rw [hquad] at h
        cases h
      | some n =>
        obtain ⟨htake, hdrop⟩ := quad_normalizeBreaks hquad
        rw [htake, hdrop, isEmpty_normalizeBreaks, if_neg hend]
        exact ⟨h, fun _ => hdrop⟩
  · rw [lowSurrogate?_of_not hopens] at h
    cases h
    refine ⟨lowSurrogate?_of_not ?_, by simp⟩
    rintro ⟨digits, hdigits⟩
    obtain ⟨ds, rfl, hds⟩ := exists_of_normalizeBreaks_eq (by decide) hdigits
    obtain ⟨ds', rfl, -⟩ := exists_of_normalizeBreaks_eq (by decide) hds.symm
    exact hopens ⟨ds', rfl⟩

/-- The digits of an escape stand before any line break. -/
theorem unicodeEscape_normalizeBreaks {d : Char} {more : Nat} (h : unicodeEscape cs = .ok (d, more)) :
    unicodeEscape (normalizeBreaks cs) = .ok (d, more) ∧
      (normalizeBreaks cs).drop (4 + more) = normalizeBreaks (cs.drop (4 + more)) := by
  rw [unicodeEscape] at h ⊢
  by_cases hend : (cs.drop 4).isEmpty
  · rw [if_pos hend] at h
    cases h
  rw [if_neg hend] at h
  cases hquad : hexQuad? (cs.take 4) with
  | none =>
    rw [hquad] at h
    cases h
  | some high =>
    obtain ⟨htake, hdrop⟩ := quad_normalizeBreaks hquad
    rw [htake, hquad, hdrop, isEmpty_normalizeBreaks, if_neg hend]
    rw [hquad] at h
    dsimp only at h ⊢
    split_ifs at h ⊢ with hpair hlone
    · cases hlow : lowSurrogate? (cs.drop 4) with
      | error e =>
        rw [hlow] at h
        cases h
      | ok low =>
        obtain ⟨hlow', hdrop'⟩ := lowSurrogate?_normalizeBreaks hlow
        rw [hlow] at h
        rw [hlow']
        refine ⟨h, ?_⟩
        cases low with
        | none =>
          simp only [Except.ok.injEq, Prod.mk.injEq] at h
          obtain ⟨-, rfl⟩ := h
          exact hdrop
        | some low =>
          simp only [Except.ok.injEq, Prod.mk.injEq] at h
          obtain ⟨-, rfl⟩ := h
          have hrest := hdrop' rfl
          rw [← hdrop, List.drop_drop, List.drop_drop] at hrest
          exact hrest
    · simp only [Except.ok.injEq, Prod.mk.injEq] at h
      obtain ⟨rfl, rfl⟩ := h
      exact ⟨rfl, hdrop⟩
    · cases h
      exact ⟨rfl, hdrop⟩

theorem Quotes.normalizeBreaks {text : List Char} (h : Quotes cs text rest) :
    Quotes (Text.normalizeBreaks cs) text (Text.normalizeBreaks rest) := by
  induction h with
  | close rest =>
    rw [normalizeBreaks_cons (by decide)]
    exact .close _
  | @plain c _ _ _ hquote hescape hcontrol _ ih =>
    have hc : c ≠ '\r' := by
      rintro rfl
      exact absurd hcontrol (by decide)
    rw [normalizeBreaks_cons hc]
    exact .plain hquote hescape hcontrol ih
  | @escape e _ _ _ _ he _ ih =>
    have hc : e ≠ '\r' := by
      rintro rfl
      cases he
    rw [normalizeBreaks_cons (by decide), normalizeBreaks_cons hc]
    exact .escape he ih
  | unicode hd _ ih =>
    obtain ⟨hd', hdrop⟩ := unicodeEscape_normalizeBreaks hd
    rw [normalizeBreaks_cons (by decide), normalizeBreaks_cons (by decide)]
    refine .unicode hd' ?_
    rw [hdrop]
    exact ih

end Breaks

/-! ## Values -/

theorem Reads.normalizeBreaks {cs rest : List Char} {part : Part} (h : Reads cs part rest) :
    Reads (Text.normalizeBreaks cs) part (Text.normalizeBreaks rest) := by
  induction h with
  | string h =>
    rw [normalizeBreaks_cons (by decide)]
    exact .string h.normalizeBreaks
  | word h =>
    obtain ⟨hword, hdrop⟩ := wordAt?_normalizeBreaks h
    rw [← hdrop]
    exact .word hword
  | emptyList h =>
    rw [normalizeBreaks_cons (by decide)]
    exact .emptyList (unblanked_normalizeBreaks_cons (by decide) h)
  | list _ ih =>
    rw [normalizeBreaks_cons (by decide)]
    rw [← unblanked_normalizeBreaks] at ih
    exact .list ih
  | emptyObject h =>
    rw [normalizeBreaks_cons (by decide)]
    exact .emptyObject (unblanked_normalizeBreaks_cons (by decide) h)
  | object _ ih =>
    rw [normalizeBreaks_cons (by decide)]
    rw [← unblanked_normalizeBreaks] at ih
    exact .object ih
  | lastItem _ hclose ih =>
    exact .lastItem ih (unblanked_normalizeBreaks_cons (by decide) hclose)
  | item _ hcomma _ ih ihmore =>
    rw [← unblanked_normalizeBreaks] at ihmore
    exact .item ih (unblanked_normalizeBreaks_cons (by decide) hcomma) ihmore
  | named h hcolon _ ih =>
    rw [normalizeBreaks_cons (by decide)]
    rw [← unblanked_normalizeBreaks] at ih
    exact .named h.normalizeBreaks (unblanked_normalizeBreaks_cons (by decide) hcolon) ih
  | lastMember _ hclose ih =>
    exact .lastMember ih (unblanked_normalizeBreaks_cons (by decide) hclose)
  | another _ hcomma _ ih ihmore =>
    rw [← unblanked_normalizeBreaks] at ihmore
    exact .another ih (unblanked_normalizeBreaks_cons (by decide) hcomma) ihmore

/-- A text is read as the same value with one kind of line breaks. -/
theorem parse_normalizeBreaks {text : String} {j : Json} (h : parse text = .ok j) :
    parse (String.ofList (Text.normalizeBreaks text.toList)) = .ok j := by
  obtain ⟨rest, hreads, hrest⟩ := reads_of_parse h
  have hreads' := hreads.normalizeBreaks
  rw [← unblanked_normalizeBreaks] at hreads'
  refine parse_of_reads (by rw [String.toList_ofList]; exact hreads') ?_
  rw [unblanked_normalizeBreaks, hrest]
  rfl

end RequestBook.Json
