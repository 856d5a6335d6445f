import Mathlib.Tactic.Common
import RequestBook.Text.Lines

/-!
# Line breaks

A text without CR is left as it is when its line breaks are turned into one kind, and nothing of a
break is left where all of them are turned into blanks.
-/

namespace RequestBook.Text

variable {c : Char} {cs : List Char}

theorem normalizeBreaks_cons (hc : c ≠ '\r') (cs : List Char) :
    normalizeBreaks (c :: cs) = c :: normalizeBreaks cs := by
  simp [normalizeBreaks, hc]

theorem normalizeBreaks_append (h : ∀ c ∈ cs, c ≠ '\r') (rest : List Char) :
    normalizeBreaks (cs ++ rest) = cs ++ normalizeBreaks rest := by
  induction cs with
  | nil => rfl
  | cons c cs ih =>
    rw [List.cons_append, normalizeBreaks_cons (h c List.mem_cons_self),
      ih fun d hd => h d (List.mem_cons_of_mem c hd), List.cons_append]

theorem head?_normalizeBreaks (cs : List Char) :
    (normalizeBreaks cs).head? = cs.head?.map fun c => if c = '\r' then '\n' else c := by
  fun_cases normalizeBreaks cs <;> rfl

theorem isEmpty_normalizeBreaks (cs : List Char) :
    (normalizeBreaks cs).isEmpty = cs.isEmpty := by
  fun_cases normalizeBreaks cs <;> rfl

theorem length_normalizeBreaks_le (cs : List Char) : (normalizeBreaks cs).length ≤ cs.length := by
  fun_induction normalizeBreaks cs with
  | case1 => exact Nat.le_refl 0
  | case2 cs ih =>
    simp only [List.length_cons]
    omega
  | case3 c cs _ ih => exact Nat.succ_le_succ ih

/-! ## Blanks for line breaks -/

/-- Every line break turned into one blank, a CR LF being one break. -/
def flattenBreaks : List Char → List Char
  | [] => []
  | '\r' :: '\n' :: cs => ' ' :: flattenBreaks cs
  | c :: cs => (if c = '\r' ∨ c = '\n' then ' ' else c) :: flattenBreaks cs

theorem ne_of_mem_flattenBreaks (cs : List Char) :
    ∀ c ∈ flattenBreaks cs, c ≠ '\n' ∧ c ≠ '\r' := by
  fun_induction flattenBreaks cs with
  | case1 => simp
  | case2 cs ih =>
    intro c hc
    rcases List.mem_cons.mp hc with rfl | hc
    · exact ⟨by decide, by decide⟩
    · exact ih c hc
  | case3 d cs _ ih =>
    intro c hc
    rcases List.mem_cons.mp hc with rfl | hc
    · split
      · exact ⟨by decide, by decide⟩
      · next h => exact ⟨fun hlf => h (.inr hlf), fun hcr => h (.inl hcr)⟩
    · exact ih c hc

theorem flattenBreaks_eq_self (h : ∀ c ∈ cs, c ≠ '\n' ∧ c ≠ '\r') :
    flattenBreaks cs = cs := by
  induction cs with
  | nil => rfl
  | cons c cs ih =>
    obtain ⟨hlf, hcr⟩ := h c List.mem_cons_self
    simp [flattenBreaks, hlf, hcr, ih fun d hd => h d (List.mem_cons_of_mem c hd)]

end RequestBook.Text
