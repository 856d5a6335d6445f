import RequestBook.Json.Printer
import RequestBook.Proofs.Json.Reading

/-!
# Escaped strings

Every character of a string is written in ASCII and read back as itself: a character beyond the
first plane as a pair of surrogates, which no other escape can be mistaken for, since a string
holds no surrogates of its own.
-/

namespace RequestBook.Json

/-! ## Hexadecimal digits -/

/-- Padding to one place more adds one digit at the end. -/
theorem padded_succ {width : Nat} (hwidth : 0 < width) (n : Nat) :
    List.replicate (width + 1 - (Nat.toDigits 16 n).length) '0' ++ Nat.toDigits 16 n =
      List.replicate (width - (Nat.toDigits 16 (n / 16)).length) '0' ++ Nat.toDigits 16 (n / 16) ++
        [(n % 16).digitChar] := by
  rcases Nat.lt_or_ge n 16 with hlt | hge
  · obtain ⟨width, rfl⟩ := Nat.exists_eq_add_of_lt hwidth
    rw [Nat.toDigits_of_lt_base hlt, Nat.div_eq_of_lt hlt, Nat.mod_eq_of_lt hlt,
      Nat.toDigits_zero]
    simp [List.replicate_succ']
  · rw [Nat.toDigits_of_base_le (by decide) hge]
    simp

theorem toList_hexDigits {n : Nat} (hn : n < 0x10000) :
    (Text.hexDigits false 4 n).toList =
      [(n / 4096).digitChar, (n / 256 % 16).digitChar, (n / 16 % 16).digitChar,
        (n % 16).digitChar] := by
  have hdigits : (Text.hexDigits false 4 n).toList =
      List.replicate (4 - (Nat.toDigits 16 n).length) '0' ++ Nat.toDigits 16 n := by
    simp [Text.hexDigits]
  have hsecond : n / 16 / 16 = n / 256 := by omega
  have hfirst : n / 256 / 16 = n / 4096 := by omega
  have hlast : n / 4096 < 16 := by omega
  rw [hdigits, padded_succ (by decide), padded_succ (by decide), padded_succ (by decide), hsecond,
    hfirst, Nat.toDigits_of_lt_base hlast]
  rfl

theorem hexValue_digitChar {n : Nat} (hn : n < 16) : Text.hexValue n.digitChar = some n := by
  have hall : ∀ m < 16, Text.hexValue m.digitChar = some m := by decide
  exact hall n hn

theorem hexQuad?_hexDigits {n : Nat} (hn : n < 0x10000) :
    Text.hexQuad? (Text.hexDigits false 4 n).toList = some n := by
  rw [toList_hexDigits hn, Text.hexQuad?, hexValue_digitChar (by omega),
    hexValue_digitChar (by omega), hexValue_digitChar (by omega), hexValue_digitChar (by omega)]
  change some _ = some n
  congr 1
  omega

/-! ## Characters -/

section Characters

variable {c : Char} {cs text rest : List Char}

theorem Quotes.ne_nil (h : Quotes cs text rest) : cs ≠ [] := by
  rintro rfl
  cases h

theorem toNat_lt_surrogates_or (c : Char) : c.toNat < 0xd800 ∨ 0xdfff < c.toNat := by
  have hvalid := c.valid
  simp only [UInt32.isValidChar, Nat.isValidChar] at hvalid
  change c.toNat < 0xd800 ∨ 0xdfff < c.toNat ∧ c.toNat < 0x110000 at hvalid
  omega

theorem toNat_lt (c : Char) : c.toNat < 0x110000 := by
  have hvalid := c.valid
  simp only [UInt32.isValidChar, Nat.isValidChar] at hvalid
  change c.toNat < 0xd800 ∨ 0xdfff < c.toNat ∧ c.toNat < 0x110000 at hvalid
  omega

theorem toList_unitEscape {n : Nat} (hn : n < 0x10000) :
    ∃ digits, (unitEscape n).toList = '\\' :: 'u' :: digits ∧ digits.length = 4 ∧
      Text.hexQuad? digits = some n := by
  refine ⟨(Text.hexDigits false 4 n).toList, ?_, ?_, hexQuad?_hexDigits hn⟩
  · simp [unitEscape]
  · rw [toList_hexDigits hn]
    rfl

/-- A unit that is no surrogate is read as its character. -/
theorem unicodeEscape_unit {n : Nat} {digits : List Char} (hlength : digits.length = 4)
    (hquad : Text.hexQuad? digits = some n) (hn : n < 0xd800 ∨ 0xdfff < n) (hcs : cs ≠ []) :
    unicodeEscape (digits ++ cs) = .ok (Char.ofNat n, 0) := by
  have htake : (digits ++ cs).take 4 = digits := by rw [← hlength, List.take_left]
  have hdrop : (digits ++ cs).drop 4 = cs := by rw [← hlength, List.drop_left]
  rw [unicodeEscape, htake, hdrop, hquad, if_neg (by simpa using hcs)]
  dsimp only
  rw [if_neg (by omega), if_neg (by omega)]

/-- Two surrogates are read as the character that they stand for. -/
theorem unicodeEscape_pair {high low : Nat} {digits digits' : List Char}
    (hlength : digits.length = 4) (hquad : Text.hexQuad? digits = some high)
    (hhigh : 0xd800 ≤ high ∧ high ≤ 0xdbff) (hlength' : digits'.length = 4)
    (hquad' : Text.hexQuad? digits' = some low) (hlow : 0xdc00 ≤ low ∧ low ≤ 0xdfff)
    (hcs : cs ≠ []) :
    unicodeEscape (digits ++ ('\\' :: 'u' :: (digits' ++ cs))) =
      .ok (Char.ofNat (0x10000 + (high - 0xd800) * 0x400 + (low - 0xdc00)), 6) := by
  have htake (ds : List Char) : (digits ++ ds).take 4 = digits := by rw [← hlength, List.take_left]
  have hdrop (ds : List Char) : (digits ++ ds).drop 4 = ds := by rw [← hlength, List.drop_left]
  have htake' : (digits' ++ cs).take 4 = digits' := by rw [← hlength', List.take_left]
  have hdrop' : (digits' ++ cs).drop 4 = cs := by rw [← hlength', List.drop_left]
  have hpair : lowSurrogate? ('\\' :: 'u' :: (digits' ++ cs)) = .ok (some low) := by
    rw [lowSurrogate?, htake', hdrop', hquad', if_neg (by simpa using hcs)]
    dsimp only
    rw [if_pos hlow]
  rw [unicodeEscape, htake, hdrop, hquad, if_neg (by simp)]
  dsimp only
  rw [if_pos hhigh, hpair]

/-- What is written for a character is read as that character. -/
theorem Quotes.escapedChar (h : Quotes cs text rest) (c : Char) :
    Quotes ((escapedChar c).toList ++ cs) (c :: text) rest := by
  rw [Json.escapedChar.eq_def]
  split
  · exact .escape rfl h
  · exact .escape rfl h
  · exact .escape rfl h
  · exact .escape rfl h
  · exact .escape rfl h
  · exact .escape rfl h
  · exact .escape rfl h
  · next hquote hescape _ _ _ _ _ =>
    dsimp only
    split_ifs with hplain hunit
    · rw [show c.toString.toList = [c] by simp]
      exact .plain hquote hescape hplain.1 h
    · obtain ⟨digits, hdigits, hlength, hquad⟩ := toList_unitEscape hunit
      have hd := unicodeEscape_unit hlength hquad (toNat_lt_surrogates_or c) h.ne_nil
      rw [Char.ofNat_toNat] at hd
      rw [hdigits]
      refine .unicode hd ?_
      rw [← hlength]
      simpa using h
    · have hlt := toNat_lt c
      obtain ⟨digits, hdigits, hlength, hquad⟩ :=
        toList_unitEscape (n := 0xd800 + (c.toNat - 0x10000) / 0x400) (by omega)
      obtain ⟨digits', hdigits', hlength', hquad'⟩ :=
        toList_unitEscape (n := 0xdc00 + (c.toNat - 0x10000) % 0x400) (by omega)
      have hd := unicodeEscape_pair hlength hquad (by omega) hlength' hquad' (by omega) h.ne_nil
      rw [show 0x10000 + (0xd800 + (c.toNat - 0x10000) / 0x400 - 0xd800) * 0x400 +
        (0xdc00 + (c.toNat - 0x10000) % 0x400 - 0xdc00) = c.toNat by omega, Char.ofNat_toNat] at hd
      have htext : (unitEscape (0xd800 + (c.toNat - 0x10000) / 0x400) ++
          unitEscape (0xdc00 + (c.toNat - 0x10000) % 0x400)).toList ++ cs =
          '\\' :: 'u' :: (digits ++ '\\' :: 'u' :: (digits' ++ cs)) := by
        rw [String.toList_append, hdigits, hdigits']
        simp
      rw [htext]
      refine .unicode hd ?_
      rw [List.drop_append, hlength, List.drop_of_length_le (by omega)]
      simpa [List.drop_append, hlength'] using h

end Characters

/-! ## Strings -/

theorem Quotes.escaped (text rest : List Char) :
    Quotes ((String.join (text.map Json.escapedChar)).toList ++ '"' :: rest) text rest := by
  induction text with
  | nil => exact .close rest
  | cons c text ih =>
    rw [List.map_cons, String.join_cons, String.toList_append, List.append_assoc]
    exact ih.escapedChar c

theorem toList_quoted (s : String) (rest : List Char) :
    (quoted s).toList ++ rest =
      '"' :: ((String.join (s.toList.map escapedChar)).toList ++ '"' :: rest) := by
  simp [quoted]

/-! ## ASCII -/

def IsAscii (s : String) : Prop := ∀ c ∈ s.toList, c.toNat < 0x80

instance (s : String) : Decidable (IsAscii s) :=
  List.decidableBAll _ s.toList

theorem IsAscii.append {s t : String} (hs : IsAscii s) (ht : IsAscii t) : IsAscii (s ++ t) := by
  intro c hc
  rw [String.toList_append, List.mem_append] at hc
  exact hc.elim (hs c) (ht c)

theorem isAscii_unitEscape {n : Nat} (hn : n < 0x10000) : IsAscii (unitEscape n) := by
  have hdigit : ∀ m < 16, m.digitChar.toNat < 0x80 := by decide
  refine IsAscii.append (by decide) fun c hc => ?_
  rw [toList_hexDigits hn] at hc
  simp only [List.mem_cons, List.not_mem_nil, or_false] at hc
  rcases hc with rfl | rfl | rfl | rfl <;> exact hdigit _ (by omega)

theorem isAscii_escapedChar (c : Char) : IsAscii (escapedChar c) := by
  have hlt := toNat_lt c
  rw [escapedChar.eq_def]
  split
  all_goals try decide
  dsimp only
  split_ifs with hplain hunit
  · intro d hd
    rw [show c.toString.toList = [c] by simp, List.mem_singleton] at hd
    rw [hd]
    omega
  · exact isAscii_unitEscape hunit
  · exact (isAscii_unitEscape (by omega)).append (isAscii_unitEscape (by omega))

theorem isAscii_quoted (s : String) : IsAscii (quoted s) := by
  have hmark : IsAscii "\"" := by decide
  have hbody : IsAscii (String.join (s.toList.map escapedChar)) := by
    generalize s.toList = text
    induction text with
    | nil => decide
    | cons c text ih =>
      rw [List.map_cons, String.join_cons]
      exact (isAscii_escapedChar c).append ih
  exact (hmark.append hbody).append hmark

end RequestBook.Json
