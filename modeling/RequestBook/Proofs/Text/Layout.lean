import Mathlib.Tactic.Common
import RequestBook.Text.Layout

/-!
# Laying out text that is there

Joining and wrapping leave out what is empty. Where no piece is empty they are plain
concatenation, and these equations say so.
-/

namespace RequestBook.Text

theorem separated_cons_cons (sep a b : String) (rest : List String) :
    separated sep (a :: b :: rest) = a ++ sep ++ separated sep (b :: rest) := rfl

theorem separated_cons (sep s : String) (rest : List String) :
    separated sep (s :: rest) = s ++ String.join (rest.map (sep ++ ·)) := by
  induction rest generalizing s with
  | nil => simp [separated]
  | cons t rest ih => rw [separated_cons_cons, ih, List.map_cons, String.join_cons,
      String.append_assoc, String.append_assoc]

theorem mem_of_mem_separated {sep : String} {parts : List String} {c : Char}
    (h : c ∈ (separated sep parts).toList) : c ∈ sep.toList ∨ ∃ part ∈ parts, c ∈ part.toList := by
  induction parts with
  | nil => simp [separated] at h
  | cons part parts ih =>
    cases parts with
    | nil => exact .inr ⟨part, List.mem_cons_self, h⟩
    | cons next parts =>
      rw [separated_cons_cons, String.toList_append, String.toList_append, List.append_assoc] at h
      rcases List.mem_append.mp h with hpart | h
      · exact .inr ⟨part, List.mem_cons_self, hpart⟩
      rcases List.mem_append.mp h with hsep | hrest
      · exact .inl hsep
      · refine (ih hrest).imp_right ?_
        rintro ⟨later, hlater, hc⟩
        exact ⟨later, List.mem_cons_of_mem _ hlater, hc⟩

theorem joined_eq_separated (sep : String) {parts : List String} (h : ∀ s ∈ parts, s ≠ "") :
    joined sep parts = separated sep parts := by
  rw [joined, List.filter_eq_self.mpr (by simpa using h)]

theorem joined_singleton (sep s : String) : joined sep [s] = s := by
  by_cases h : s = ""
  · rw [h]; rfl
  · exact joined_eq_separated sep (by simpa using h)

theorem wrapped_empty (before after : String) : wrapped before "" after = "" := rfl

theorem wrapped_of_ne {s : String} (h : s ≠ "") (before after : String) :
    wrapped before s after = before ++ s ++ after := if_neg h

/-- A piece that is there, one that is not and one that may be. -/
theorem joined_blank_pieces {a : String} (ha : a ≠ "") (b : String) :
    joined " " [a, "", b] = a ++ wrapped " " b "" := by
  by_cases hb : b = ""
  · rw [hb, wrapped_empty, String.append_empty]
    simp [joined, ha, separated]
  · rw [wrapped_of_ne hb, String.append_empty]
    simp [joined, ha, hb, separated, String.append_assoc]

theorem separated_ne_empty {sep : String} {parts : List String} (hne : parts ≠ [])
    (h : ∀ s ∈ parts, s ≠ "") : separated sep parts ≠ "" := by
  match parts with
  | [] => exact absurd rfl hne
  | [s] => exact h s List.mem_cons_self
  | s :: t :: rest =>
    rw [separated_cons_cons]
    have hs := h s List.mem_cons_self
    simp [hs]

theorem joined_cons (sep s : String) (parts : List String) :
    joined sep (s :: parts) = if s = "" then joined sep parts else
      if joined sep parts = "" then s else s ++ sep ++ joined sep parts := by
  by_cases hs : s = ""
  · rw [if_pos hs, joined, joined, List.filter_cons_of_neg (by simpa using hs)]
  rw [if_neg hs, joined, List.filter_cons_of_pos (by simpa using hs), joined]
  cases hparts : parts.filter (· ≠ "") with
  | nil => rfl
  | cons t rest =>
    have hne : separated sep (t :: rest) ≠ "" := by
      refine separated_ne_empty (by simp) fun x hx => ?_
      rw [← hparts] at hx
      simpa using (List.mem_filter.mp hx).2
    rw [if_neg hne, separated_cons_cons]

theorem indentChars_eq_nil {cs : List Char} : indentChars cs = [] ↔ cs = [] := by
  cases cs with
  | nil => exact ⟨fun _ => rfl, fun _ => rfl⟩
  | cons c cs =>
    rw [indentChars]
    split <;> simp

theorem indented_of_ne {s : String} (h : s ≠ "") :
    (indented s).toList = ' ' :: ' ' :: indentChars s.toList := by
  have hne : String.ofList (indentChars s.toList) ≠ "" := by
    rw [ne_eq, String.ofList_eq_empty_iff, indentChars_eq_nil]
    simpa using h
  rw [indented, wrapped_of_ne hne]
  simp

theorem block_of_ne {parts : List String} (h : parts ≠ []) :
    block parts = "\x7b\n" ++ indented (joined "\n" parts) ++ "\n\x7d" := by
  rw [block, if_neg (by simpa using h)]

end RequestBook.Text
