import RequestBook.Document.Printer
import RequestBook.Proofs.Token.Spelling

/-!
# Quoted strings

A text printed between quotes is read back as that text: each of its characters stands there for
itself or as an escape of its own, and nothing inside ends the string or the line.
-/

namespace RequestBook

open Reading StringLiteral

variable {seen cs : List Char}

/-! ## Escapes -/

theorem stringBody_skip (pre : List Char) (i : Nat) (seen cs : List Char) :
    stringBody pre.length i seen (pre ++ cs) = stringBody 0 (i + pre.length) seen cs := by
  induction pre generalizing i with
  | nil => rfl
  | cons c pre ih =>
    rw [List.length_cons, List.cons_append, stringBody, ih]
    congr 1
    omega

/-- An escape stands for one character, whatever its size. -/
theorem stringBody_escape {d : Char} {more : List Char}
    (h : escape ('\\' :: (more ++ cs)) = .ok (d, more.length + 1)) (i : Nat) (seen : List Char) :
    stringBody 0 i seen ('\\' :: more ++ cs) =
      stringBody 0 (i + ('\\' :: more).length) (d :: seen) cs := by
  rw [List.cons_append, stringBody, if_neg (by decide), if_neg (by decide), if_pos rfl, h]
  dsimp only
  rw [Nat.add_sub_cancel, stringBody_skip]
  congr 1
  rw [List.length_cons]
  omega

theorem stringBody_plain {c : Char} (hquote : c ≠ '"') (hescape : c ≠ '\\') (hline : c ≠ '\n')
    (hline' : c ≠ '\r') (i : Nat) (seen cs : List Char) :
    stringBody 0 i seen (c :: cs) = stringBody 0 (i + 1) (c :: seen) cs := by
  rw [stringBody, if_neg hquote, if_neg (by simp [hline, hline']), if_neg hescape]

theorem scalar?_toNat (c : Char) : scalar? c.toNat = some c :=
  dif_pos c.valid

/-- Four digits write a character that has no letter of its own. -/
theorem hexDigits_four (n : Nat) (hn : n < 0xa0) : (Text.hexDigits true 4 n).toList.length = 4 ∧
    (∀ c ∈ (Text.hexDigits true 4 n).toList, c ≠ '\x7b' ∧ c ≠ '\n') ∧
    Text.hexQuad? (Text.hexDigits true 4 n).toList = some n := by
  have hall : ∀ m < 0xa0, (Text.hexDigits true 4 m).toList.length = 4 ∧
      ((Text.hexDigits true 4 m).toList.all fun c => c ≠ '\x7b' ∧ c ≠ '\n') = true ∧
      Text.hexQuad? (Text.hexDigits true 4 m).toList = some m := by
    decide +kernel
  obtain ⟨hlength, hplain, hquad⟩ := hall n hn
  rw [List.all_eq_true] at hplain
  exact ⟨hlength, fun c hc => of_decide_eq_true (hplain c hc), hquad⟩

theorem escape_hexDigits {c : Char} (hc : c.toNat < 0xa0) (cs : List Char) :
    escape ('\\' :: ('u' :: (Text.hexDigits true 4 c.toNat).toList ++ cs)) = .ok (c, 6) := by
  obtain ⟨hlength, hplain, hquad⟩ := hexDigits_four c.toNat hc
  match hdigits : (Text.hexDigits true 4 c.toNat).toList, hlength with
  | [a, b, d, e], _ =>
    rw [hdigits] at hplain hquad
    have ha : a ≠ '{' := (hplain a List.mem_cons_self).1
    have hquadEscape : quadEscape ('\\' :: 'u' :: a :: b :: d :: e :: cs) = .ok (c, 6) := by
      simp [quadEscape, hquad, scalar?_toNat]
    rw [← hquadEscape]
    simp [escape, ha]

/-! ## Printed characters -/

/-- A printed character is read back wherever it stands in a string. -/
theorem stringBody_escapedChar (c : Char) (i : Nat) (seen cs : List Char) :
    stringBody 0 i seen ((escapedChar c).toList ++ cs) =
      stringBody 0 (i + (escapedChar c).toList.length) (c :: seen) cs := by
  unfold escapedChar
  split
  all_goals first
    | exact stringBody_escape rfl i seen
    | skip
  next hquote hescape _ _ hline hline' _ =>
  split
  · next hcontrol =>
    have hc : c.toNat < 0xa0 := by omega
    have hsize : ('u' :: (Text.hexDigits true 4 c.toNat).toList).length + 1 = 6 := by
      rw [List.length_cons, (hexDigits_four c.toNat hc).1]
    have htext : ("\\u" ++ Text.hexDigits true 4 c.toNat).toList =
        '\\' :: 'u' :: (Text.hexDigits true 4 c.toNat).toList := by simp
    rw [htext]
    exact stringBody_escape (by rw [escape_hexDigits hc, hsize]) i seen
  · have htext : c.toString.toList = [c] := by simp
    rw [htext]
    exact stringBody_plain hquote hescape hline hline' i seen cs

/-- The first character of a printed one does not end the string, and none ends the line. -/
theorem escapedChar_shape (c : Char) : ∃ d ds, (escapedChar c).toList = d :: ds ∧ d ≠ '"' ∧
    ∀ e ∈ d :: ds, e ≠ '\n' := by
  have hpair {s : String} (e : Char) (hs : s.toList = ['\\', e]) (he : e ≠ '\n') :
      ∃ d ds, s.toList = d :: ds ∧ d ≠ '"' ∧ ∀ e ∈ d :: ds, e ≠ '\n' :=
    ⟨_, _, hs, by decide, by simpa using he⟩
  unfold escapedChar
  split
  · exact hpair '"' (by simp) (by decide)
  · exact hpair '\\' (by simp) (by decide)
  · exact hpair 'b' (by simp) (by decide)
  · exact hpair 'f' (by simp) (by decide)
  · exact hpair 'n' (by simp) (by decide)
  · exact hpair 'r' (by simp) (by decide)
  · exact hpair 't' (by simp) (by decide)
  next hquote _ _ _ hline _ _ =>
  split
  · next hcontrol =>
    refine ⟨'\\', 'u' :: (Text.hexDigits true 4 c.toNat).toList, by simp, by decide, ?_⟩
    have hplain := (hexDigits_four c.toNat (by omega)).2.1
    intro e he
    rw [List.mem_cons, List.mem_cons] at he
    rcases he with rfl | rfl | he
    · decide
    · decide
    · exact (hplain e he).2
  · exact ⟨c, [], by simp, hquote, by simpa using hline⟩

/-! ## Printed strings -/

theorem stringBody_escapedText (text : List Char) (i : Nat) (seen cs : List Char) :
    stringBody 0 i seen ((String.join (text.map escapedChar)).toList ++ '"' :: cs) =
      .lexeme (.string (String.ofList (seen.reverse ++ text)))
        (i + (String.join (text.map escapedChar)).toList.length + 1) := by
  induction text generalizing i seen with
  | nil => simp [stringBody]
  | cons c text ih =>
    rw [List.map_cons, String.join_cons, String.toList_append, List.append_assoc,
      stringBody_escapedChar, ih, List.length_append]
    simp [Nat.add_assoc]

theorem escapedText_shape (text : List Char) :
    (∀ e ∈ (String.join (text.map escapedChar)).toList, e ≠ '\n') ∧
      (text ≠ [] → ∃ d ds, (String.join (text.map escapedChar)).toList = d :: ds ∧ d ≠ '"') := by
  induction text with
  | nil => simp
  | cons c text ih =>
    obtain ⟨d, ds, hshape, hquote, hline⟩ := escapedChar_shape c
    rw [List.map_cons, String.join_cons, String.toList_append, hshape]
    refine ⟨fun e he => ?_, fun _ => ⟨d, _, rfl, hquote⟩⟩
    rcases List.mem_append.mp he with he | he
    · exact hline e he
    · exact ih.1 e he

/-- A quoted text is written as one string. -/
theorem written_quoted (text : String) : Written (.string text) (quoted text).toList := by
  have hquoted : (quoted text).toList =
      '"' :: ((String.join (text.toList.map escapedChar)).toList ++ ['"']) := by
    simp [quoted]
  obtain ⟨hline, hhead⟩ := escapedText_shape text.toList
  rw [hquoted]
  refine written_of_line ?_ rfl (by decide) fun rest hrest => ?_
  · intro d hd
    rw [List.mem_cons, List.mem_append, List.mem_singleton] at hd
    rcases hd with rfl | hd | rfl
    · decide
    · exact hline d hd
    · decide
  · have hsingle : ((String.join (text.toList.map escapedChar)).toList ++ ['"'] ++ rest).take 2 ≠
        ['"', '"'] := by
      by_cases htext : text.toList = []
      · -- behind an empty string no third quote follows
        rw [htext]
        cases rest with
        | nil => simp
        | cons c rest =>
          simp only [endsToken, Bool.and_eq_true, bne_iff_ne] at hrest
          simpa using hrest.2
      · obtain ⟨d, ds, hd, hquote⟩ := hhead htext
        rw [hd]
        simp [hquote]
    have hof : of '"' ((String.join (text.toList.map escapedChar)).toList ++ ['"'] ++ rest) =
        stringBody 0 1 [] ((String.join (text.toList.map escapedChar)).toList ++ ['"'] ++ rest) := by
      rw [of, if_neg hsingle]
      rfl
    have hsize : ((String.join (text.toList.map escapedChar)).toList ++ ['"']).length + 1 =
        1 + (String.join (text.toList.map escapedChar)).toList.length + 1 := by
      rw [List.length_append, List.length_singleton]
      omega
    rw [hof, hsize, List.append_assoc, List.singleton_append, stringBody_escapedText,
      List.reverse_nil, List.nil_append, String.ofList_toList]

end RequestBook
