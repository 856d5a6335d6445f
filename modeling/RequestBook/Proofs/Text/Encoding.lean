import Mathlib.Tactic.Common
import RequestBook.Text.Encoding

/-!
# Texts in UTF-8

The bytes of a text in UTF-8 are told apart from those of any other encoding by their first two: a
JSON text starts with two characters of one byte each, neither of which is zero. Where halves of
pairs may stand between the characters, each is read as the character in its place, and what has
whole characters only is read as without halves.
-/

namespace RequestBook.Text

/-- A character that is one byte in UTF-8, other than zero. -/
def IsShort (c : Char) : Prop := 0 < c.toNat ∧ c.toNat < 0x80

theorem IsShort.toNat_byte {c : Char} (hc : IsShort c) : c.val.toUInt8.toNat = c.toNat := by
  have hlt := hc.2
  rw [UInt32.toNat_toUInt8]
  exact Nat.mod_eq_of_lt (Nat.lt_trans hlt (by decide))

namespace Encoding

theorem bytes_of_decode {bytes : List UInt8} {s : String} (h : utf8.decode bytes = some s) :
    bytes = s.toByteArray.data.toList := by
  change String.fromUTF8? ⟨bytes.toArray⟩ = some s at h
  rw [String.fromUTF8?] at h
  split_ifs at h
  cases h
  rfl

theorem decode_bytes (s : String) : utf8.decode s.toByteArray.data.toList = some s := by
  have hvalid : ByteArray.IsValidUTF8 ⟨s.toByteArray.data.toList.toArray⟩ := s.isValidUTF8
  change String.fromUTF8? ⟨s.toByteArray.data.toList.toArray⟩ = some s
  rw [String.fromUTF8?, dif_pos hvalid]
  rfl

/-! ## Halves of pairs -/

/-- What a text is made of where halves of pairs may stand alone. -/
inductive Point where
  | whole (c : Char)
  | half (unit : Nat) (h : isHalf unit = true)

/-- The bytes of a point in UTF-8, half of a pair being written in three bytes. -/
def Point.bytes : Point → List UInt8
  | whole c => String.utf8EncodeChar c
  | half unit _ => [0xed, UInt8.ofNat (unit / 64 % 64 + 0x80), UInt8.ofNat (unit % 64 + 0x80)]

/-- The character that a point is read as. -/
def Point.char : Point → Char
  | whole c => c
  | half unit _ => standIn unit

theorem withStandIns_of_none {a b c : UInt8} (h : half? a b c = none) (rest : List UInt8) :
    withStandIns (a :: b :: c :: rest) = a :: withStandIns (b :: c :: rest) := by
  rw [withStandIns, h]

theorem withStandIns_cons {a : UInt8} (ha : a ≠ 0xed) (bytes : List UInt8) :
    withStandIns (a :: bytes) = a :: withStandIns bytes := by
  match bytes with
  | [] => rfl
  | [b] => rfl
  | b :: c :: rest => exact withStandIns_of_none (by simp [half?, ha]) rest

/-- No byte of a character is taken for the first one of half of a pair. -/
theorem withStandIns_whole (c : Char) (rest : List UInt8) :
    withStandIns (String.utf8EncodeChar c ++ rest) =
      String.utf8EncodeChar c ++ withStandIns rest := by
  have hne {n : Nat} (hn : n < 256) (h : n ≠ 0xed) : UInt8.ofNat n ≠ 0xed := by
    intro heq
    have hnat := congrArg UInt8.toNat heq
    rw [UInt8.toNat_ofNat_of_lt' hn] at hnat
    exact h hnat
  have hlater (n : Nat) : UInt8.ofNat (n % 64 + 0x80) ≠ 0xed := hne (by omega) (by omega)
  have hvalid : c.val.toNat < 0xd800 ∨ 0xdfff < c.val.toNat ∧ c.val.toNat < 0x110000 := c.valid
  unfold String.utf8EncodeChar
  generalize c.val.toNat = v at hvalid ⊢
  dsimp only
  split_ifs with hone htwo hthree
  · exact withStandIns_cons (hne (by omega) (by omega)) rest
  · simp only [List.cons_append, List.nil_append]
    rw [withStandIns_cons (hne (by omega) (by omega)), withStandIns_cons (hlater _)]
  · -- the only first byte that a half has in common with characters is `0xed`
    have hfirst : half? (UInt8.ofNat (v / 4096 % 16 + 0xe0)) (UInt8.ofNat (v / 64 % 64 + 0x80))
        (UInt8.ofNat (v % 64 + 0x80)) = none := by
      rw [half?, if_neg]
      rintro ⟨ha, hb, -⟩
      have hnat := congrArg UInt8.toNat ha
      rw [UInt8.toNat_ofNat_of_lt' (by simp only [UInt8.size]; omega)] at hnat hb
      change v / 4096 % 16 + 0xe0 = 0xed at hnat
      omega
    simp only [List.cons_append, List.nil_append]
    rw [withStandIns_of_none hfirst, withStandIns_cons (hlater _), withStandIns_cons (hlater _)]
  · simp only [List.cons_append, List.nil_append]
    rw [withStandIns_cons (hne (by omega) (by omega)), withStandIns_cons (hlater _),
      withStandIns_cons (hlater _), withStandIns_cons (hlater _)]

theorem withStandIns_half {unit : Nat} (h : isHalf unit = true) (rest : List UInt8) :
    withStandIns ((Point.half unit h).bytes ++ rest) =
      String.utf8EncodeChar (standIn unit) ++ withStandIns rest := by
  have hrange : 0xd800 ≤ unit ∧ unit < 0xe000 := by simpa [isHalf] using h
  have hlater (n : Nat) : (UInt8.ofNat (n % 64 + 0x80)).toNat = n % 64 + 0x80 :=
    UInt8.toNat_ofNat_of_lt' (by simp only [UInt8.size]; omega)
  have hunit : half? 0xed (UInt8.ofNat (unit / 64 % 64 + 0x80)) (UInt8.ofNat (unit % 64 + 0x80)) =
      some unit := by
    rw [half?, hlater, hlater, if_pos ⟨rfl, by omega, by omega, by omega, by omega⟩]
    congr 1
    omega
  rw [Point.bytes, List.cons_append, List.cons_append, List.cons_append, List.nil_append,
    withStandIns, hunit]

theorem withStandIns_points (ps : List Point) :
    withStandIns (ps.flatMap Point.bytes) =
      (ps.map Point.char).flatMap String.utf8EncodeChar := by
  induction ps with
  | nil => rfl
  | cons p ps ih =>
    rw [List.flatMap_cons, List.map_cons, List.flatMap_cons, ← ih]
    cases p with
    | whole c => exact withStandIns_whole c _
    | half unit h => exact withStandIns_half h _

theorem bytes_ofList (cs : List Char) :
    (String.ofList cs).toByteArray.data.toList = cs.flatMap String.utf8EncodeChar := by
  rw [String.toByteArray_ofList, List.utf8Encode, List.toList_data_toByteArray]

/-- Where halves may stand alone, a text is read point by point. -/
theorem read_points (ps : List Point) :
    utf8.read true (ps.flatMap Point.bytes) = some (String.ofList (ps.map Point.char)) := by
  have hdecode := decode_bytes (String.ofList (ps.map Point.char))
  rw [bytes_ofList, ← withStandIns_points] at hdecode
  exact hdecode

theorem read_of_decode {bytes : List UInt8} {s : String} (h : utf8.decode bytes = some s) :
    utf8.read true bytes = some s := by
  have hread := read_points (s.toList.map .whole)
  rw [List.flatMap_map, List.map_map] at hread
  have hchars : s.toList.map (Point.char ∘ Point.whole) = s.toList := List.map_id _
  rw [hchars, String.ofList_toList] at hread
  rw [bytes_of_decode h]
  nth_rewrite 1 [← String.ofList_toList (s := s)]
  rw [bytes_ofList]
  exact hread

/-! ## The encoding of a JSON text -/

theorem bytes_short {c : Char} (hc : IsShort c) (cs : List Char) :
    (c :: cs).utf8Encode.data.toList = c.val.toUInt8 :: cs.utf8Encode.data.toList := by
  have hsize : c.utf8Size = 1 := by
    rw [Char.utf8Size_eq_one_iff]
    have hlt := hc.2
    rw [UInt32.le_iff_toNat_le]
    exact Nat.le_of_lt_succ hlt
  rw [List.utf8Encode_cons, List.utf8Encode_singleton, String.utf8EncodeChar_eq_singleton hsize,
    ByteArray.toList_data_append, List.toList_data_toByteArray]
  rfl

/-- All marks but one start with a byte that no short character has. -/
theorem find?_marks_short {a : UInt8} (ha : 0 < a.toNat ∧ a.toNat < 0x80) (rest : List UInt8) :
    (marks.find? fun (mark, _) => mark.isPrefixOf (a :: rest)) = none := by
  have hzero : (0 : UInt8) ≠ a := by
    rintro rfl
    exact absurd ha.1 (by decide)
  have hmark {first : UInt8} (h : 0x80 ≤ first.toNat) : first ≠ a := by
    rintro rfl
    omega
  have hfe : (0xfe : UInt8) ≠ a := hmark (by decide)
  have hff : (0xff : UInt8) ≠ a := hmark (by decide)
  have hef : (0xef : UInt8) ≠ a := hmark (by decide)
  simp [marks, hzero, hfe, hff, hef]

theorem detect_short {a b : UInt8} (ha : 0 < a.toNat ∧ a.toNat < 0x80) (hb : b ≠ 0)
    (rest : List UInt8) : detect (a :: b :: rest) = (utf8, 0) := by
  have hzero : a ≠ 0 := by
    rintro rfl
    exact absurd ha.1 (by decide)
  have hbytes : (a :: b :: rest).map (· == 0) = false :: false :: rest.map (· == 0) := by
    simp [hzero, hb]
  rw [detect, find?_marks_short ha]
  dsimp only
  rw [hbytes]
  rfl

/-- Bytes in UTF-8 that start with two characters of one byte are read as UTF-8. -/
theorem decodeDetected_of_short {bytes : List UInt8} {s : String} {c d : Char} {more : List Char}
    (h : utf8.decode bytes = some s) (hs : s.toList = c :: d :: more) (hc : IsShort c)
    (hd : IsShort d) : decodeDetected bytes = some s := by
  have hbytes : bytes = c.val.toUInt8 :: d.val.toUInt8 :: more.utf8Encode.data.toList := by
    rw [bytes_of_decode h, ← String.utf8Encode_toList, hs, bytes_short hc, bytes_short hd]
  have hfirst : 0 < c.val.toUInt8.toNat ∧ c.val.toUInt8.toNat < 0x80 := by
    rw [hc.toNat_byte]
    exact hc
  have hsecond : d.val.toUInt8 ≠ 0 := by
    intro hzero
    have hpos := hd.1
    rw [← hd.toNat_byte, hzero] at hpos
    exact absurd hpos (by decide)
  rw [decodeDetected, hbytes, detect_short hfirst hsecond, ← hbytes]
  exact read_of_decode h

end Encoding

end RequestBook.Text
