import Mathlib.Data.List.TakeWhile
import RequestBook.Text.Blank

/-!
# The core of a text

The core of a text neither starts nor ends with a character of some kind and has nothing but such
characters around it. A text has one core, which is what is left when the characters are taken off
both of its ends.
-/

namespace RequestBook.Text

variable {kind : Char → Bool} {text core : List Char}

/-- A part of a text that does not start or end with a character of a kind, between characters of
this kind. -/
structure IsCore (kind : Char → Bool) (text core : List Char) : Prop where
  around : ∃ left right, text = left ++ core ++ right ∧
    (∀ c ∈ left, kind c = true) ∧ ∀ c ∈ right, kind c = true
  first : ∀ c, core.head? = some c → kind c = false
  last : ∀ c, core.getLast? = some c → kind c = false

theorem dropWhile_eq_self (h : ∀ c, text.head? = some c → kind c = false) :
    text.dropWhile kind = text := by
  cases text with
  | nil => rfl
  | cons c cs => exact List.dropWhile_cons_of_neg (Bool.eq_false_iff.mp (h c rfl))

theorem not_kind_of_head? {c : Char} (h : (text.dropWhile kind).head? = some c) :
    kind c = false := by
  have hhead := List.head?_dropWhile_not kind text
  rwa [h] at hhead

theorem IsCore.eq_trim (h : IsCore kind text core) : core = trim kind text := by
  obtain ⟨left, right, rfl, hleft, hright⟩ := h.around
  rw [trim, List.append_assoc, List.dropWhile_append_of_pos hleft]
  cases core with
  | nil =>
    rw [List.nil_append, List.dropWhile_eq_nil_iff.mpr hright]
    rfl
  | cons c cs =>
    have hlast : ∀ d, (c :: cs).reverse.head? = some d → kind d = false := by
      intro d hd
      rw [List.head?_reverse] at hd
      exact h.last d hd
    have hfirst : (c :: cs ++ right).dropWhile kind = c :: cs ++ right :=
      dropWhile_eq_self (h.first · ·)
    rw [hfirst, List.reverse_append,
      List.dropWhile_append_of_pos fun d hd => hright d (List.mem_reverse.mp hd),
      dropWhile_eq_self hlast, List.reverse_reverse]

theorem isCore_trim (kind : Char → Bool) (text : List Char) :
    IsCore kind text (trim kind text) := by
  have hleft : text = text.takeWhile kind ++ text.dropWhile kind :=
    List.takeWhile_append_dropWhile.symm
  generalize hinner : text.dropWhile kind = inner at hleft
  have hright : inner = trim kind text ++ (inner.reverse.takeWhile kind).reverse := by
    rw [trim, hinner, ← List.reverse_append, List.takeWhile_append_dropWhile, List.reverse_reverse]
  refine ⟨⟨text.takeWhile kind, (inner.reverse.takeWhile kind).reverse, ?_, ?_, ?_⟩, ?_, ?_⟩
  · rw [List.append_assoc, ← hright]
    exact hleft
  · exact fun c hc => List.mem_takeWhile_imp hc
  · exact fun c hc => List.mem_takeWhile_imp (List.mem_reverse.mp hc)
  · intro c hc
    have hhead : (text.dropWhile kind).head? = some c := by
      rw [hinner, hright, List.head?_append, hc]
      rfl
    exact not_kind_of_head? hhead
  · intro c hc
    rw [trim, List.getLast?_reverse] at hc
    exact not_kind_of_head? hc

/-- Nothing is left of a text exactly if all its characters are of the kind. -/
theorem trim_eq_nil_iff : trim kind text = [] ↔ ∀ c ∈ text, kind c = true := by
  constructor
  · intro h c hc
    obtain ⟨left, right, htext, hleft, hright⟩ := (isCore_trim kind text).around
    rw [h, List.append_nil] at htext
    rw [htext] at hc
    exact (List.mem_append.mp hc).elim (hleft c) (hright c)
  · intro h
    have hcore : IsCore kind text [] := ⟨⟨text, [], by simp, h, by simp⟩, nofun, nofun⟩
    exact hcore.eq_trim.symm

/-- More characters of the kind in front of a core do not change it. -/
theorem IsCore.cons {c : Char} (hc : kind c = true) (h : IsCore kind text core) :
    IsCore kind (c :: text) core := by
  obtain ⟨left, right, rfl, hleft, hright⟩ := h.around
  exact ⟨⟨c :: left, right, rfl, List.forall_mem_cons.mpr ⟨hc, hleft⟩, hright⟩, h.first, h.last⟩

/-- A core is the core of itself. -/
theorem IsCore.self (h : IsCore kind text core) : IsCore kind core core :=
  ⟨⟨[], [], by simp, by simp, by simp⟩, h.first, h.last⟩

end RequestBook.Text
