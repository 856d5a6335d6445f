import Mathlib.Algebra.Ring.Int.Defs
import Mathlib.Data.List.Find
import Mathlib.Data.List.TakeWhile
import Mathlib.Tactic.Common
import RequestBook.Json.Parser

/-!
# Words and numbers of JSON

A word or a number stands at the start of a text, and the letters, digits and signs that it is
made of end it. What comes after those has no part in it, so that a text may be cut off or go on
with anything there.
-/

namespace RequestBook.Json

/-- Whether a character can be part of a word or of a number. -/
def isWordChar (c : Char) : Bool := c.isAlphanum || c == '+' || c == '-' || c == '.'

/-- Whether a word or number that comes before ends where a text starts. -/
def EndsWord (cs : List Char) : Prop := ∀ c ∈ cs.head?, isWordChar c = false

/-! ## Parts of a number -/

/-- The digits before the point. A zero in front stands alone. -/
def wholeDigits (cs : List Char) : List Char :=
  match cs with
  | '0' :: _ => ['0']
  | _ => cs.takeWhile Char.isDigit

/-- The digits behind the point. -/
def fractionDigits : List Char → List Char
  | '.' :: cs => cs.takeWhile Char.isDigit
  | _ => []

/-- Whether an exponent is negative, how many characters say so, and what follows them. -/
def exponentSign : List Char → Bool × Nat × List Char
  | '-' :: cs => (true, 1, cs)
  | '+' :: cs => (false, 1, cs)
  | cs => (false, 0, cs)

theorem exponentPart_cons (e : Char) (cs : List Char) :
    exponentPart (e :: cs) =
      if e = 'e' ∨ e = 'E' then
        let (negative, signSize, cs) := exponentSign cs
        let ds := cs.takeWhile Char.isDigit
        if ds.isEmpty then none
        else
          let n : Int := Text.digitsValue ds
          some (if negative then -n else n, 1 + signSize + ds.length)
      else none := rfl

theorem numberAt?_eq (cs : List Char) :
    numberAt? cs =
      let negative := cs.head? = some '-'
      let signSize := if negative then 1 else 0
      let whole := wholeDigits (cs.drop signSize)
      if whole.isEmpty then none
      else
        let body := (cs.drop signSize).drop whole.length
        let part := fractionDigits body
        let partSize := if part.isEmpty then 0 else 1 + part.length
        let exponent := exponentPart (body.drop partSize)
        let size := signSize + whole.length + partSize + (exponent.map (·.2)).getD 0
        if part.isEmpty && exponent.isNone then
          if whole.length > Text.digitLimit then some (.error (.hugeNumber whole.length), size)
          else
            some (.ok (.int ((if negative then -1 else 1) * (Text.digitsValue whole : Int))), size)
        else
          let x := Decimal.toFloat (Text.digitsValue (whole ++ part))
            (((exponent.map (·.1)).getD 0) - part.length)
          some (.ok (.float (if negative then -x else x)), size) := rfl

section Ends

variable {cs rest : List Char}

theorem takeWhile_append_of_head {p : Char → Bool} (h : ∀ c ∈ rest.head?, p c = false) :
    (cs ++ rest).takeWhile p = cs.takeWhile p := by
  induction cs with
  | nil =>
    cases rest with
    | nil => rfl
    | cons c rest => simp [h c rfl]
  | cons c cs ih => simp [List.takeWhile_cons, ih]

@[simp] theorem endsWord_nil : EndsWord [] := by simp [EndsWord]

theorem endsWord_cons {c : Char} (hc : isWordChar c = false) (cs : List Char) :
    EndsWord (c :: cs) := by
  intro d hd
  cases hd
  exact hc

theorem EndsWord.not_isDigit (h : EndsWord rest) : ∀ c ∈ rest.head?, c.isDigit = false := by
  intro c hc
  have hword := h c hc
  simp only [isWordChar, Char.isAlphanum, Bool.or_eq_false_iff] at hword
  exact hword.1.1.1.2

theorem EndsWord.head_ne (h : EndsWord rest) {c : Char} (hc : isWordChar c = true) :
    rest.head? ≠ some c := by
  intro hhead
  rw [h c hhead] at hc
  cases hc

theorem wholeDigits_append (h : EndsWord rest) :
    wholeDigits (cs ++ rest) = wholeDigits cs := by
  cases cs with
  | nil =>
    have hzero := h.head_ne (c := '0') rfl
    cases rest with
    | nil => rfl
    | cons c rest =>
      have hdigit := h.not_isDigit c rfl
      have hc : c ≠ '0' := by simpa using hzero
      simp [wholeDigits, hdigit, hc]
  | cons c cs =>
    by_cases hc : c = '0'
    · subst hc
      rfl
    · have hwhole : ∀ ds, wholeDigits (c :: ds) = (c :: ds).takeWhile Char.isDigit := by
        intro ds
        simp [wholeDigits, hc]
      rw [List.cons_append, hwhole, hwhole, ← List.cons_append,
        takeWhile_append_of_head h.not_isDigit]

theorem fractionDigits_append (h : EndsWord rest) :
    fractionDigits (cs ++ rest) = fractionDigits cs := by
  cases cs with
  | nil =>
    have hpoint := h.head_ne (c := '.') rfl
    cases rest with
    | nil => rfl
    | cons c rest =>
      have hc : c ≠ '.' := by simpa using hpoint
      simp [fractionDigits, hc]
  | cons c cs =>
    by_cases hc : c = '.'
    · subst hc
      exact takeWhile_append_of_head h.not_isDigit
    · simp [fractionDigits, hc]

theorem exponentSign_append (h : EndsWord rest) :
    exponentSign (cs ++ rest) =
      ((exponentSign cs).1, (exponentSign cs).2.1, (exponentSign cs).2.2 ++ rest) := by
  cases cs with
  | nil =>
    cases rest with
    | nil => rfl
    | cons c rest =>
      have hminus : c ≠ '-' := by simpa using h.head_ne (c := '-') rfl
      have hplus : c ≠ '+' := by simpa using h.head_ne (c := '+') rfl
      simp [exponentSign, hminus, hplus]
  | cons c cs =>
    by_cases hminus : c = '-'
    · subst hminus
      rfl
    · by_cases hplus : c = '+'
      · subst hplus
        rfl
      · simp [exponentSign, hminus, hplus]

theorem exponentPart_append (h : EndsWord rest) :
    exponentPart (cs ++ rest) = exponentPart cs := by
  cases cs with
  | nil =>
    cases rest with
    | nil => rfl
    | cons c rest =>
      have he : c ≠ 'e' := by simpa using h.head_ne (c := 'e') rfl
      have hE : c ≠ 'E' := by simpa using h.head_ne (c := 'E') rfl
      simp [exponentPart, he, hE]
  | cons c cs =>
    rw [List.cons_append, exponentPart_cons, exponentPart_cons, exponentSign_append h]
    dsimp only
    rw [takeWhile_append_of_head h.not_isDigit]

theorem length_wholeDigits_le (cs : List Char) : (wholeDigits cs).length ≤ cs.length := by
  fun_cases wholeDigits cs with
  | case1 => simp
  | case2 => exact (List.takeWhile_prefix _).length_le

theorem length_fractionDigits (cs : List Char) :
    (if (fractionDigits cs).isEmpty then 0 else 1 + (fractionDigits cs).length) ≤ cs.length := by
  fun_cases fractionDigits cs with
  | case1 ds =>
    have hlength := (List.takeWhile_prefix (l := ds) Char.isDigit).length_le
    rw [List.length_cons]
    split_ifs <;> omega
  | case2 => simp

theorem numberAt?_append (h : EndsWord rest) : numberAt? (cs ++ rest) = numberAt? cs := by
  have hsign : ((cs ++ rest).head? = some '-') = (cs.head? = some '-') := by
    cases cs with
    | nil => simpa using h.head_ne (c := '-') rfl
    | cons c cs => rfl
  have hsize : (if cs.head? = some '-' then 1 else 0) ≤ cs.length := by
    cases cs with
    | nil => simp
    | cons c cs =>
      rw [List.length_cons]
      split_ifs <;> omega
  rw [numberAt?_eq, numberAt?_eq]
  simp only [hsign]
  rw [List.drop_append_of_le_length hsize, wholeDigits_append h,
    List.drop_append_of_le_length (length_wholeDigits_le _), fractionDigits_append h,
    List.drop_append_of_le_length (length_fractionDigits _), exponentPart_append h]

theorem isPrefixOf_append_right {word : List Char} (hword : ∀ c ∈ word, isWordChar c = true)
    (h : EndsWord rest) : word.isPrefixOf (cs ++ rest) = word.isPrefixOf cs := by
  induction word generalizing cs with
  | nil => simp
  | cons w word ih =>
    cases cs with
    | cons c cs =>
      simp only [List.cons_append, List.isPrefixOf_cons_cons]
      rw [ih fun d hd => hword d (List.mem_cons_of_mem w hd)]
    | nil =>
      cases rest with
      | nil => rfl
      | cons c rest =>
        have hne : w ≠ c := by
          rintro rfl
          exact h.head_ne (hword w List.mem_cons_self) rfl
        simp [List.isPrefixOf, hne]

/-! ## Words -/

/-- The word or number that a text starts with, and its size. -/
def wordAt? (cs : List Char) : Option (Json × Nat) :=
  match words.find? fun word => word.1.toList.isPrefixOf cs with
  | some (word, value) => some (value, word.length)
  | none =>
    match numberAt? cs with
    | some (.ok value, size) => some (value, size)
    | _ => none

/-- Whether a word or number can start with a character. -/
def startsWord (c : Char) : Bool := c.isDigit || ['n', 't', 'f', 'N', 'I', '-'].contains c

theorem words_spelling : ∀ word ∈ words.map Prod.fst, word.toList.all isWordChar = true ∧
    ∃ c, word.toList.head? = some c ∧ startsWord c = true := by
  intro word hword
  simp only [words, List.map_cons, List.map_nil, List.mem_cons, List.not_mem_nil, or_false] at hword
  rcases hword with rfl | rfl | rfl | rfl | rfl | rfl <;> exact ⟨by decide, _, rfl, by decide⟩

theorem find?_words_append (h : EndsWord rest) :
    (words.find? fun word => word.1.toList.isPrefixOf (cs ++ rest)) =
      words.find? fun word => word.1.toList.isPrefixOf cs := by
  apply List.find?_congr
  intro word hword
  refine isPrefixOf_append_right (fun c hc => ?_) h
  exact List.all_eq_true.mp (words_spelling word.1 (List.mem_map_of_mem hword)).1 c hc

theorem wordAt?_append (h : EndsWord rest) : wordAt? (cs ++ rest) = wordAt? cs := by
  rw [wordAt?, wordAt?, find?_words_append h, numberAt?_append h]

end Ends

theorem numberAt?_head {c : Char} {cs : List Char} {p : Except FaultKind Json × Nat}
    (h : numberAt? (c :: cs) = some p) : startsWord c = true := by
  by_cases hsign : c = '-'
  · subst hsign
    rfl
  · cases hdigit : c.isDigit with
    | true => rw [startsWord, hdigit, Bool.true_or]
    | false =>
      have hzero : c ≠ '0' := by
        rintro rfl
        cases hdigit
      have hnone : numberAt? (c :: cs) = none := by
        simp [numberAt?, hsign, hdigit, hzero]
      rw [hnone] at h
      cases h

theorem wordAt?_head {c : Char} {cs : List Char} {p : Json × Nat}
    (h : wordAt? (c :: cs) = some p) : startsWord c = true := by
  rw [wordAt?] at h
  split at h
  · next word value hfind =>
    have hmem := List.mem_map_of_mem (f := Prod.fst) (List.mem_of_find?_eq_some hfind)
    obtain ⟨-, d, hhead, hd⟩ := words_spelling word hmem
    have hprefix : word.toList.isPrefixOf (c :: cs) = true :=
      List.find?_some (p := fun w : String × Json => w.1.toList.isPrefixOf (c :: cs)) hfind
    obtain ⟨more, hmore⟩ := List.isPrefixOf_iff_prefix.mp hprefix
    obtain ⟨ds, hds⟩ := List.head?_eq_some_iff.mp hhead
    rw [hds] at hmore
    cases hmore
    exact hd
  · split at h
    · next hnumber => exact numberAt?_head hnumber
    · cases h

theorem numberAt?_size {cs : List Char} {x : Except FaultKind Json} {n : Nat}
    (h : numberAt? cs = some (x, n)) : 0 < n := by
  rw [numberAt?_eq] at h
  dsimp only at h
  generalize (if cs.head? = some '-' then 1 else 0) = signSize at h
  by_cases hwhole : (wholeDigits (cs.drop signSize)).isEmpty
  · rw [if_pos hwhole] at h
    cases h
  · have hpos : 0 < (wholeDigits (cs.drop signSize)).length :=
      List.length_pos_iff.mpr (by simpa using hwhole)
    rw [if_neg hwhole] at h
    split_ifs at h <;> cases h <;> omega

theorem exponentPart_size_le (cs : List Char) :
    ((exponentPart cs).map (·.2)).getD 0 ≤ cs.length := by
  cases cs with
  | nil => exact Nat.le_refl 0
  | cons e cs =>
    have hsign : (exponentSign cs).2.1 + (exponentSign cs).2.2.length ≤ cs.length := by
      fun_cases exponentSign cs <;> simp <;> omega
    rw [exponentPart_cons]
    generalize exponentSign cs = sign at hsign ⊢
    obtain ⟨negative, signSize, ds⟩ := sign
    have hdigits := (List.takeWhile_prefix (l := ds) Char.isDigit).length_le
    dsimp only at hsign ⊢
    by_cases he : e = 'e' ∨ e = 'E'
    · by_cases hempty : (ds.takeWhile Char.isDigit).isEmpty
      · rw [if_pos he, if_pos hempty]
        exact Nat.zero_le _
      · rw [if_pos he, if_neg hempty, Option.map_some, Option.getD_some, List.length_cons]
        omega
    · rw [if_neg he]
      exact Nat.zero_le _

theorem numberAt?_size_le {cs : List Char} {x : Except FaultKind Json} {n : Nat}
    (h : numberAt? cs = some (x, n)) : n ≤ cs.length := by
  have hsign : (if cs.head? = some '-' then 1 else 0) ≤ cs.length := by
    cases cs with
    | nil => simp
    | cons c cs =>
      rw [List.length_cons]
      split_ifs <;> omega
  rw [numberAt?_eq] at h
  dsimp only at h
  generalize (if cs.head? = some '-' then 1 else 0) = signSize at h hsign
  have hwhole := length_wholeDigits_le (cs.drop signSize)
  generalize (wholeDigits (cs.drop signSize)) = whole at h hwhole
  have hfraction := length_fractionDigits ((cs.drop signSize).drop whole.length)
  generalize fractionDigits ((cs.drop signSize).drop whole.length) = part at h hfraction
  generalize (if part.isEmpty then 0 else 1 + part.length) = partSize at h hfraction
  have hexponent := exponentPart_size_le (((cs.drop signSize).drop whole.length).drop partSize)
  simp only [List.length_drop] at hwhole hfraction hexponent
  split_ifs at h <;> cases h <;> omega

/-- What stands behind a word or number is shorter than the text. -/
theorem wordAt?_size {cs : List Char} {v : Json} {n : Nat} (h : wordAt? cs = some (v, n)) :
    (cs.drop n).length < cs.length := by
  have hn : 0 < n := by
    rw [wordAt?] at h
    split at h
    · next word value hfind =>
      have hmem := List.mem_map_of_mem (f := Prod.fst) (List.mem_of_find?_eq_some hfind)
      obtain ⟨-, d, hhead, -⟩ := words_spelling word hmem
      cases h
      rw [← String.length_toList]
      exact List.length_pos_iff.mpr fun hnil => by rw [hnil] at hhead; cases hhead
    · split at h
      · next hnumber =>
        cases h
        exact numberAt?_size hnumber
      · cases h
  cases cs with
  | nil => cases h
  | cons c cs =>
    rw [List.length_drop, List.length_cons]
    omega

theorem wordAt?_size_le {cs : List Char} {v : Json} {n : Nat} (h : wordAt? cs = some (v, n)) :
    n ≤ cs.length := by
  rw [wordAt?] at h
  split at h
  · next word value hfind =>
    have hprefix : word.toList.isPrefixOf cs = true :=
      List.find?_some (p := fun w : String × Json => w.1.toList.isPrefixOf cs) hfind
    cases h
    rw [← String.length_toList]
    exact (List.isPrefixOf_iff_prefix.mp hprefix).length_le
  · split at h
    · next hnumber =>
      cases h
      exact numberAt?_size_le hnumber
    · cases h

/-- No object is a word or a number. -/
theorem wordAt?_ne_obj {cs : List Char} {members : List (String × Json)} {n : Nat} :
    wordAt? cs ≠ some (.obj members, n) := by
  intro h
  rw [wordAt?] at h
  split at h
  · next word value hfind =>
    have hmem := List.mem_of_find?_eq_some hfind
    cases h
    simp [words] at hmem
  · split at h
    · next hnumber =>
      cases h
      rw [numberAt?_eq] at hnumber
      dsimp only at hnumber
      split_ifs at hnumber <;> cases hnumber
    · cases h

/-! ## Integers -/

theorem head?_toDigits {n : Nat} (hn : 0 < n) : (Nat.toDigits 10 n).head? ≠ some '0' := by
  induction n using Nat.strongRecOn with
  | ind n ih =>
    rcases Nat.lt_or_ge n 10 with hlt | hge
    · rw [Nat.toDigits_of_lt_base hlt]
      simp
      omega
    · obtain ⟨c, ds, hds⟩ := List.exists_cons_of_ne_nil (Nat.toDigits_ne_nil (n := n / 10) (b := 10))
      have hhead := ih (n / 10) (Nat.div_lt_self hn (by decide)) (Nat.div_pos hge (by decide))
      rw [Nat.toDigits_of_base_le (by decide) hge, hds]
      rw [hds] at hhead
      exact hhead

theorem wholeDigits_toDigits (n : Nat) : wholeDigits (Nat.toDigits 10 n) = Nat.toDigits 10 n := by
  rcases Nat.eq_zero_or_pos n with rfl | hn
  · rfl
  · have hhead := head?_toDigits hn
    have hdigits : ∀ c ∈ Nat.toDigits 10 n, c.isDigit = true :=
      fun c hc => Nat.isDigit_of_mem_toDigits (by decide) (by decide) hc
    generalize Nat.toDigits 10 n = ds at hhead hdigits
    fun_cases wholeDigits ds with
    | case1 => exact absurd rfl hhead
    | case2 => exact List.takeWhile_eq_self_iff.mpr hdigits

theorem digitsValue_toDigits (n : Nat) : Text.digitsValue (Nat.toDigits 10 n) = n :=
  Nat.ofDigitChars_ten_toDigits

theorem lt_length_toDigits_pow (k : Nat) :
    k < (Nat.toDigits 10 ((10 : Int) ^ k).natAbs).length := by
  rcases Nat.eq_zero_or_pos k with rfl | hk
  · decide
  · rw [Int.natAbs_pow, ← Nat.not_le, Nat.length_toDigits_le_iff (by decide) hk]
    exact Nat.lt_irrefl _

/-- The least integer that has more digits than are read. -/
def hugeInteger : Int := 10 ^ Text.digitLimit

theorem length_hugeInteger :
    Text.digitLimit < (Nat.toDigits 10 hugeInteger.natAbs).length :=
  lt_length_toDigits_pow Text.digitLimit

theorem toList_toString_int (n : Int) :
    (toString n).toList = (if n < 0 then ['-'] else []) ++ Nat.toDigits 10 n.natAbs := by
  rw [Int.toString_eq_repr, Int.repr_eq_if]
  split_ifs with hle hlt hlt
  · omega
  · rw [Nat.toList_repr, List.nil_append, show n.toNat = n.natAbs by omega]
  · rw [String.toList_append, Nat.toList_repr, show (-n).toNat = n.natAbs by omega]
    rfl
  · omega

theorem head?_toDigits_ne_minus (n : Nat) : (Nat.toDigits 10 n).head? ≠ some '-' := by
  intro hhead
  have hminus : '-'.isDigit = true :=
    Nat.isDigit_of_mem_toDigits (by decide) (by decide) (List.mem_of_mem_head? hhead)
  cases hminus

/-- A number without a point and an exponent is an integer, if it has few enough digits. -/
theorem numberAt?_whole {cs ds : List Char} {signSize : Nat}
    (hsign : (if cs.head? = some '-' then 1 else 0) = signSize) (hds : cs.drop signSize = ds)
    (hwhole : wholeDigits ds = ds) (hne : ds ≠ []) :
    numberAt? cs =
      some (if ds.length ≤ Text.digitLimit then
          .ok (.int ((if cs.head? = some '-' then -1 else 1) * (Text.digitsValue ds : Int)))
        else .error (.hugeNumber ds.length), signSize + ds.length) := by
  have hempty : ds.isEmpty = false := by simp [hne]
  have hfraction : fractionDigits [] = [] := rfl
  have hexponent : exponentPart [] = none := rfl
  rw [numberAt?_eq]
  dsimp only
  rw [hsign, hds, hwhole, hempty, List.drop_length, hfraction, List.drop_nil, hexponent]
  simp only [List.isEmpty_nil, Option.isNone_none, Bool.and_self, if_true, Option.map_none,
    Option.getD_none, Nat.add_zero, Bool.false_eq_true, if_false]
  split_ifs <;> first | rfl | omega

/-- An integer is read as it is written, if it has few enough digits. -/
theorem numberAt?_int (n : Int) :
    numberAt? (toString n).toList =
      some (if (Nat.toDigits 10 n.natAbs).length ≤ Text.digitLimit then .ok (.int n)
        else .error (.hugeNumber (Nat.toDigits 10 n.natAbs).length),
        (toString n).toList.length) := by
  have hwhole := wholeDigits_toDigits n.natAbs
  rw [toList_toString_int]
  by_cases hn : n < 0
  · have hvalue : -1 * (n.natAbs : Int) = n := by omega
    have hds : (['-'] ++ Nat.toDigits 10 n.natAbs).drop 1 = Nat.toDigits 10 n.natAbs := rfl
    have hminus : (['-'] ++ Nat.toDigits 10 n.natAbs).head? = some '-' := rfl
    rw [if_pos hn, numberAt?_whole (if_pos hminus) hds hwhole Nat.toDigits_ne_nil,
      digitsValue_toDigits, if_pos hminus, hvalue, List.length_append, List.length_singleton]
  · have hvalue : 1 * (n.natAbs : Int) = n := by omega
    have hminus := head?_toDigits_ne_minus n.natAbs
    rw [if_neg hn, List.nil_append,
      numberAt?_whole (if_neg hminus) List.drop_zero hwhole Nat.toDigits_ne_nil,
      digitsValue_toDigits, if_neg hminus, hvalue, Nat.zero_add]

theorem find?_words_int (n : Int) :
    (words.find? fun word => word.1.toList.isPrefixOf (toString n).toList) = none := by
  obtain ⟨c, ds, hds⟩ := List.exists_cons_of_ne_nil (Nat.toDigits_ne_nil (n := n.natAbs) (b := 10))
  have hdigit : c.isDigit = true :=
    Nat.isDigit_of_mem_toDigits (by decide) (by decide) (hds ▸ List.mem_cons_self)
  have hne : ∀ d : Char, d.isDigit = false → d ≠ c := by
    rintro d hd rfl
    rw [hdigit] at hd
    cases hd
  rw [toList_toString_int, hds]
  split_ifs <;>
    simp [words, hne 'n' rfl, hne 't' rfl, hne 'f' rfl, hne 'N' rfl, hne 'I' rfl, hne '-' rfl]

theorem wordAt?_int {n : Int} (h : (Nat.toDigits 10 n.natAbs).length ≤ Text.digitLimit) :
    wordAt? (toString n).toList = some (.int n, (toString n).toList.length) := by
  rw [wordAt?, find?_words_int, numberAt?_int, if_pos h]

end RequestBook.Json
