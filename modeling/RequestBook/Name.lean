/-!
# Names

A name is a letter or underscore followed by letters, digits and underscores, all of
them ASCII. Names are the only tokens of a request that the schema supplies.
-/

namespace RequestBook

def isNameStart (c : Char) : Bool := c.isAlpha || c == '_'

def isNameContinue (c : Char) : Bool := c.isAlphanum || c == '_'

def isName : List Char → Bool
  | [] => false
  | c :: cs => isNameStart c && cs.all isNameContinue

theorem isNameContinue_of_isNameStart {c : Char} (h : isNameStart c = true) :
    isNameContinue c = true := by
  simp only [isNameStart, isNameContinue, Char.isAlphanum, Bool.or_eq_true] at h ⊢
  rcases h with h | h
  · exact Or.inl (Or.inl h)
  · exact Or.inr h

theorem isNameContinue_of_mem {cs : List Char} (h : isName cs = true) {c : Char} (hc : c ∈ cs) :
    isNameContinue c = true := by
  cases cs with
  | nil => cases hc
  | cons d ds =>
    rw [isName, Bool.and_eq_true, List.all_eq_true] at h
    rcases List.mem_cons.mp hc with rfl | hc
    · exact isNameContinue_of_isNameStart h.1
    · exact h.2 c hc

theorem not_mem_of_isName {cs : List Char} (h : isName cs = true) {c : Char}
    (hc : isNameContinue c = false) : c ∉ cs := by
  intro hmem
  rw [isNameContinue_of_mem h hmem] at hc
  cases hc

end RequestBook
