import RequestBook.Proofs.Token.BlockText
import RequestBook.Proofs.Token.Number
import RequestBook.Proofs.Token.Quoted

/-!
# Tokens that can be written again

Every token of a text has a printed form that is read as that token again. A block string is the
exception: it has to be steady.
-/

namespace RequestBook

open Reading

namespace Lexeme

/-- What the lexeme carries is written by its printed form. -/
def Printable : Lexeme → Prop
  | name s => isName s.toList = true
  | int s => Written (.int s) s.toList
  | float s => Written (.float s) s.toList
  | blockString s => Written (.blockString s) (BlockText.print s).toList
  | _ => True

/-- A block string keeps its text when it is printed and read. -/
def Steady : Lexeme → Prop
  | blockString s => BlockText.Steady s
  | _ => True

instance : DecidablePred Steady
  | blockString s => inferInstanceAs (Decidable (BlockText.Steady s))
  | punctuator _ | name _ | int _ | float _ | string _ | eof | fault _ =>
    inferInstanceAs (Decidable True)

end Lexeme

variable {c : Char} {cs : List Char} {l : Lexeme} {size : Nat}

theorem exists_string_of_stringBody {skip i : Nat} {seen : List Char}
    (h : stringBody skip i seen cs = .lexeme l size) : ∃ text, l = .string text := by
  induction cs generalizing skip i seen with
  | nil => simp [stringBody] at h
  | cons c cs ih =>
    cases skip with
    | succ skip => exact ih (by rwa [stringBody] at h)
    | zero =>
      rw [stringBody] at h
      split at h
      · cases h
        exact ⟨_, rfl⟩
      split at h
      · cases h
      split at h
      · split at h
        · exact ih h
        · cases h
      · exact ih h

theorem printable_of_blockBody (h : blockBody 3 [] [] cs = .lexeme l size) (hsteady : l.Steady) :
    l.Printable := by
  obtain ⟨text, lines, rfl, hlines, htext⟩ :=
    BlockText.blockBody_dedented (by simp [BlockText.Unbroken]) (by simp) h
  exact BlockText.written_print hlines htext hsteady

theorem OpensNumber.printable (hc : OpensNumber c) (h : number (c :: cs) = .lexeme l size) :
    l.Printable := by
  obtain ⟨text, rfl | rfl, hwritten⟩ := hc.written h
  · exact hwritten
  · exact hwritten

theorem printable_of_reading (h : of c cs = .lexeme l size) (hsteady : l.Steady) :
    l.Printable := by
  unfold of at h
  split at h
  · cases h
    trivial
  split at h
  · cases h
    trivial
  split at h
  · split at h
    · exact printable_of_blockBody h hsteady
    · obtain ⟨text, rfl⟩ := exists_string_of_stringBody h
      trivial
  split at h
  · next hopens => exact OpensNumber.printable hopens h
  split at h
  · next hstart =>
    cases h
    simp only [Lexeme.Printable, String.toList_ofList, isName, Bool.and_eq_true]
    exact ⟨hstart, List.all_takeWhile⟩
  · split at h <;> cases h

/-- A token of a text can be written again. -/
theorem printable_of_mem_tokensFrom {skip i : Nat} {t : Token} (h : t ∈ tokensFrom skip i cs)
    (hsteady : t.lexeme.Steady) : t.lexeme.Printable := by
  induction skip, i, cs using tokensFrom.induct with
  | case1 =>
    rw [tokensFrom, List.mem_singleton] at h
    rw [h]
    trivial
  | case2 skip i c cs ih => exact ih (by rwa [tokensFrom] at h)
  | case3 i c cs hignored ih =>
    rw [tokensFrom, if_pos hignored] at h
    exact ih h
  | case4 i cs hignored ih =>
    rw [tokensFrom, if_neg hignored, if_pos rfl] at h
    exact ih h
  | case5 i c cs hignored hcomment l size hreading ih =>
    rw [tokensFrom, if_neg hignored, if_neg hcomment, hreading] at h
    rcases List.mem_cons.mp h with rfl | h
    · exact printable_of_reading hreading hsteady
    · exact ih h
  | case6 i c cs hignored hcomment f offset hreading =>
    rw [tokensFrom, if_neg hignored, if_neg hcomment, hreading] at h
    rw [List.mem_singleton.mp h]
    trivial

end RequestBook
