import RequestBook.Proofs.Entries
import RequestBook.Proofs.Json.Escapes
import RequestBook.Proofs.Text.Layout

/-!
# What is written is read

A value without doubles is written as a text that says that value, on one line or over several,
whatever follows it. So a text of its own is read back as the value, if its integers are few enough
digits long to be read at all.
-/

namespace RequestBook.Json

open TextReader

/-- A value without doubles, whose objects have every name once. -/
inductive Plain : Json → Prop
  | null : Plain .null
  | bool (b : Bool) : Plain (.bool b)
  | int (n : Int) : Plain (.int n)
  | str (s : String) : Plain (.str s)
  | arr {items : List Json} (h : ∀ j ∈ items, Plain j) : Plain (.arr items)
  | obj {members : List (String × Json)} (hnames : (members.map Prod.fst).Nodup)
      (h : ∀ m ∈ members, Plain m.2) : Plain (.obj members)

attribute [simp] Plain.null Plain.bool Plain.int Plain.str

@[simp] theorem plain_arr {items : List Json} : Plain (.arr items) ↔ ∀ j ∈ items, j.Plain := by
  constructor
  · rintro ⟨⟩
    assumption
  · exact .arr

@[simp] theorem plain_obj {members : List (String × Json)} :
    Plain (.obj members) ↔ (members.map Prod.fst).Nodup ∧ ∀ m ∈ members, m.2.Plain := by
  constructor
  · rintro ⟨⟩
    exact ⟨by assumption, by assumption⟩
  · exact fun h => .obj h.1 h.2

/-! ## Parts of a value -/

theorem areWritable_iff {items : List Json} :
    areWritable items = true ↔ ∀ j ∈ items, j.isWritable = true := by
  induction items with
  | nil => simp [areWritable]
  | cons j items ih => simp [areWritable, ih]

theorem hasWritableMembers_iff {members : List (String × Json)} :
    hasWritableMembers members = true ↔ ∀ m ∈ members, m.2.isWritable = true := by
  induction members with
  | nil => simp [hasWritableMembers]
  | cons m members ih => simp [hasWritableMembers, ih]

theorem writeItems_eq_map (margin : Option Nat) (items : List Json) :
    writeItems margin items = items.map (write margin) := by
  induction items with
  | nil => rfl
  | cons j items ih => rw [writeItems, ih, List.map_cons]

/-- A member on its line. -/
def memberText (margin : Option Nat) (m : String × Json) : String :=
  quoted m.1 ++ ": " ++ write margin m.2

theorem writeMembers_eq_map (margin : Option Nat) (members : List (String × Json)) :
    writeMembers margin members = members.map (memberText margin) := by
  induction members with
  | nil => rfl
  | cons m members ih =>
    rw [writeMembers, ih, List.map_cons]
    rfl

theorem dedupe_of_nodup {members : List (String × Json)} (h : (members.map Prod.fst).Nodup) :
    dedupe members = members := by
  refine Entries.putAll_of_new ?_ (by simp)
  rw [List.Nodup, List.pairwise_map] at h
  exact h.imp fun hne => beq_false_of_ne hne

/-! ## Layout -/

section Layout

variable {cs rest : List Char}

theorem unblanked_append {gap : List Char} (hgap : ∀ c ∈ gap, isBlank c = true) (cs : List Char) :
    unblanked (gap ++ cs) = unblanked cs :=
  List.dropWhile_append_of_pos hgap

/-- Around and between the parts of a list or an object there are only blanks. -/
theorem toList_bracketed (margin : Option Nat) {parts : List String} (hparts : parts ≠ []) :
    ∃ before gap behind : List Char, (∀ c ∈ before, isBlank c = true) ∧
      (∀ c ∈ gap, isBlank c = true) ∧ (∀ c ∈ behind, isBlank c = true) ∧
      ∀ opening closing, (bracketed opening closing margin parts).toList =
        opening.toList ++ (before ++ ((Text.separated ("," ++ String.ofList gap) parts).toList ++
          (behind ++ closing.toList))) := by
  have hempty : ¬parts.isEmpty = true := by simpa using hparts
  cases margin with
  | none =>
    refine ⟨[], [' '], [], by simp, by simp [isBlank], by simp, fun opening closing => ?_⟩
    rw [bracketed, if_neg hempty]
    simp
  | some depth =>
    have hline : ∀ n, ∀ c ∈ '\n' :: List.replicate n '\t', isBlank c = true := by
      intro n c hc
      rcases List.mem_cons.mp hc with rfl | hc
      · rfl
      · rw [List.eq_of_mem_replicate hc]
        rfl
    refine ⟨'\n' :: List.replicate (depth + 1) '\t', '\n' :: List.replicate (depth + 1) '\t',
      '\n' :: List.replicate depth '\t', hline _, hline _, hline _, fun opening closing => ?_⟩
    rw [bracketed, if_neg hempty]
    simp

theorem endsWord_blanks {c : Char} {gap : List Char} (hgap : ∀ c ∈ gap, isBlank c = true)
    (hc : isWordChar c = false) (cs : List Char) : EndsWord (gap ++ c :: cs) := by
  cases gap with
  | nil => exact endsWord_cons hc cs
  | cons b gap =>
    have hblank := hgap b List.mem_cons_self
    simp only [isBlank, Bool.or_eq_true, beq_iff_eq] at hblank
    refine endsWord_cons ?_ _
    rcases hblank with ((rfl | rfl) | rfl) | rfl <;> rfl

/-- Wherever the text stands in front of what ends a word, it is read as the part, up to blanks. -/
def Says (text : String) (part : Part) : Prop :=
  ∀ rest, EndsWord rest → ∃ mid, Reads (unblanked (text.toList ++ rest)) part mid ∧
    unblanked mid = unblanked rest

variable {α : Type} (series : Series α) {text : α → String} {xs : List α}

/-- Texts that say the parts of a list or an object say them between commas and blanks. -/
theorem Series.reads_separated {gap behind : List Char} (hgap : ∀ c ∈ gap, isBlank c = true)
    (hbehind : ∀ c ∈ behind, isBlank c = true) {texts : List String} (hne : texts ≠ [])
    (h : List.Forall₂ (fun text x => Says text (series.one x)) texts xs) (rest : List Char) :
    Reads (unblanked ((Text.separated ("," ++ String.ofList gap) texts).toList ++
      (behind ++ series.closing :: rest))) (series.many xs) rest := by
  induction h with
  | nil => exact absurd rfl hne
  | @cons text x texts xs hx hxs ih =>
    have hclosing := series.closing_stays
    cases hxs with
    | nil =>
      obtain ⟨mid, hmid, hrest⟩ := hx _ (endsWord_blanks hbehind series.closing_ends rest)
      refine series.last hmid ?_
      rw [hrest, unblanked_append hbehind, unblanked,
        List.dropWhile_cons_of_neg (by simp [hclosing])]
    | @cons next y texts ys hy hys =>
      have hmore := ih (by simp)
      have htext : (Text.separated ("," ++ String.ofList gap) (text :: next :: texts)).toList ++
          (behind ++ series.closing :: rest) = text.toList ++ (',' :: (gap ++
            ((Text.separated ("," ++ String.ofList gap) (next :: texts)).toList ++
              (behind ++ series.closing :: rest)))) := by
        simp only [Text.separated_cons_cons]
        simp
      obtain ⟨mid, hmid, hrest⟩ := hx (',' :: (gap ++
        ((Text.separated ("," ++ String.ofList gap) (next :: texts)).toList ++
          (behind ++ series.closing :: rest)))) (endsWord_cons rfl _)
      rw [htext]
      refine series.more hmid hrest ?_
      rw [unblanked_append hgap]
      exact hmore

theorem Series.reads_bracketed {opening closing : String}
    (hopening : opening.toList = [series.opening]) (hclosing : closing.toList = [series.closing])
    (margin : Option Nat)
    (h : ∀ x ∈ xs, ∀ rest, EndsWord rest → Reads ((text x).toList ++ rest) (series.one x) rest)
    (rest : List Char) :
    Reads ((bracketed opening closing margin (xs.map text)).toList ++ rest)
      (.value (series.whole xs)) rest := by
  have hstays := series.closing_stays
  by_cases hne : xs = []
  · have htext : (bracketed opening closing margin (xs.map text)).toList ++ rest =
        series.opening :: series.closing :: rest := by
      simp [hne, bracketed, hopening, hclosing]
    rw [htext, hne]
    exact series.empty (by rw [unblanked, List.dropWhile_cons_of_neg (by simp [hstays])])
  · obtain ⟨before, gap, behind, hbefore, hgap, hbehind, htext⟩ :=
      toList_bracketed margin (by simpa using hne : xs.map text ≠ [])
    have hsays : List.Forall₂ (fun text x => Says text (series.one x)) (xs.map text) xs := by
      refine List.forall₂_map_left_iff.mpr (List.forall₂_same.mpr fun x hx rest hrest => ?_)
      have hreads := h x hx rest hrest
      exact ⟨rest, hreads.unblanked_eq.symm ▸ hreads, rfl⟩
    have hxs := series.reads_separated hgap hbehind (by simpa using hne) hsays rest
    rw [htext, hopening, hclosing]
    simp only [List.cons_append, List.nil_append, List.append_assoc]
    refine series.some ?_
    rw [unblanked_append hbefore]
    exact hxs

end Layout

/-! ## Values -/

theorem reads_word {text : String} {j : Json} {rest : List Char} (hrest : EndsWord rest)
    (h : wordAt? text.toList = some (j, text.toList.length)) :
    Reads (text.toList ++ rest) (.value j) rest := by
  have hword := Reads.word ((wordAt?_append hrest).trans h)
  rw [List.drop_left] at hword
  exact hword

theorem reads_quoted (s : String) (rest : List Char) :
    Reads ((quoted s).toList ++ rest) (.value (.str s)) rest := by
  have hstring := Reads.string (Quotes.escaped s.toList rest)
  rw [String.ofList_toList] at hstring
  rw [toList_quoted]
  exact hstring

/-- A member is read if its value is. -/
theorem reads_memberText {margin : Option Nat} {m : String × Json} {rest : List Char}
    (h : Reads ((write margin m.2).toList ++ rest) (.value m.2) rest) :
    Reads ((memberText margin m).toList ++ rest) (.member m) rest := by
  have htext : (memberText margin m).toList ++ rest =
      (quoted m.1).toList ++ (':' :: ' ' :: ((write margin m.2).toList ++ rest)) := by
    simp [memberText]
  rw [htext, toList_quoted]
  have hcolon (cs : List Char) : unblanked (':' :: cs) = ':' :: cs := rfl
  have hvalue : unblanked (' ' :: ((write margin m.2).toList ++ rest)) =
      (write margin m.2).toList ++ rest := h.unblanked_eq
  have hnamed := Reads.named (Quotes.escaped m.1.toList _) (hcolon _) (hvalue ▸ h)
  rw [String.ofList_toList] at hnamed
  exact hnamed

/-- What is written for a value is read as the value, whatever follows. -/
theorem Plain.reads {j : Json} (hj : j.Plain) (hwrite : j.isWritable = true) (margin : Option Nat)
    {rest : List Char} (hrest : EndsWord rest) :
    Reads ((write margin j).toList ++ rest) (.value j) rest := by
  induction hj generalizing margin rest with
  | null => exact reads_word hrest (by simp [write, wordAt?, words]; rfl)
  | bool b => cases b <;> exact reads_word hrest (by simp [write, wordAt?, words]; rfl)
  | int n =>
    rw [isWritable, decide_eq_true_eq] at hwrite
    exact reads_word hrest (wordAt?_int hwrite)
  | str s => exact reads_quoted s rest
  | arr _ ih =>
    rw [isWritable, areWritable_iff] at hwrite
    rw [write, writeItems_eq_map]
    exact Series.items.reads_bracketed (by simp [Series.items]) (by simp [Series.items]) margin
      (fun j hj _ hrest => ih j hj (hwrite j hj) (margin.map (· + 1)) hrest) rest
  | @obj members hnames _ ih =>
    rw [isWritable, hasWritableMembers_iff] at hwrite
    have hmembers : Reads ((bracketed "\x7b" "\x7d" margin
        (members.map (memberText (margin.map (· + 1))))).toList ++ rest)
          (.value (.obj (dedupe members))) rest :=
      Series.members.reads_bracketed (by simp [Series.members]) (by simp [Series.members]) margin
        (fun m hm _ hrest => reads_memberText
          (ih m hm (hwrite m hm) (margin.map (· + 1)) hrest)) rest
    rw [dedupe_of_nodup hnames] at hmembers
    rw [write, writeMembers_eq_map]
    exact hmembers

/-- A text of its own is read back. -/
theorem Plain.parse_write {j : Json} (hj : j.Plain) (hwrite : j.isWritable = true)
    (margin : Option Nat) : parse (write margin j) = .ok j := by
  have hreads := hj.reads hwrite margin endsWord_nil
  rw [List.append_nil] at hreads
  refine parse_of_reads (hreads.unblanked_eq.symm ▸ hreads) rfl

/-! ## Integers of too many digits -/

/-- From `cs` the reader fails with a fault of that kind. -/
def Rejects {α : Type} (r : TextReader α) (cs : List Char) (kind : FaultKind) : Prop :=
  ∀ i, ∃ j, r ⟨cs, i⟩ = .error ⟨kind, j⟩

section Rejecting

variable {α β : Type} {r : TextReader α} {f : α → TextReader β} {cs mid : List Char} {x : α}
  {kind : FaultKind}

theorem Rejects.bind (h : Rejects r cs kind) : Rejects (r >>= f) cs kind := by
  intro i
  obtain ⟨j, hj⟩ := h i
  refine ⟨j, ?_⟩
  change (r ⟨cs, i⟩ >>= fun p => f p.1 p.2) = _
  rw [hj]
  rfl

theorem Accepts.rejects (h : Accepts r cs x mid) (h' : Rejects (f x) mid kind) :
    Rejects (r >>= f) cs kind := by
  intro i
  obtain ⟨j, hj⟩ := h i
  obtain ⟨k, hk⟩ := h' j
  refine ⟨k, ?_⟩
  change (r ⟨cs, i⟩ >>= fun p => f p.1 p.2) = _
  rw [hj]
  exact hk

theorem numberAt?_int_append (n : Int) {rest : List Char} (hrest : EndsWord rest) :
    numberAt? ((toString n).toList ++ rest) =
      some (if (Nat.toDigits 10 n.natAbs).length ≤ Text.digitLimit then .ok (.int n)
        else .error (.hugeNumber (Nat.toDigits 10 n.natAbs).length),
        (toString n).toList.length) := by
  rw [numberAt?_append hrest, numberAt?_int]

theorem rejects_int {n : Int} (hn : Text.digitLimit < (Nat.toDigits 10 n.natAbs).length)
    {rest : List Char} (hrest : EndsWord rest) (size levels : Nat) :
    Rejects (readWithin size (levels + 1)) ((toString n).toList ++ rest)
      (.hugeNumber (Nat.toDigits 10 n.natAbs).length) := by
  have hfind : (words.find? fun word => word.1.toList.isPrefixOf ((toString n).toList ++ rest)) =
      none := by
    rw [find?_words_append hrest, find?_words_int]
  have hnumber := numberAt?_int_append n hrest
  rw [if_neg (by omega)] at hnumber
  refine (accepts_peek _).rejects ?_
  cases hcs : (toString n).toList ++ rest with
  | nil =>
    rw [hcs] at hnumber
    cases hnumber
  | cons c cs =>
    rw [hcs] at hfind hnumber
    have hhead := numberAt?_head hnumber
    split
    · next hc => cases hc; exact absurd hhead (by decide)
    · next hc => cases hc; exact absurd hhead (by decide)
    · next hc => cases hc; exact absurd hhead (by decide)
    · intro i
      refine ⟨i, ?_⟩
      rw [readWord_apply, hfind]
      dsimp only
      rw [hnumber]
      rfl

/-- The text of an object whose first member is an integer. -/
def integerFirst (name : String) (n : Int) (rest : List Char) : List Char :=
  '\x7b' :: ((quoted name).toList ++ ':' :: ' ' :: ((toString n).toList ++ rest))

/-- An object with such an integer in front is not read. -/
theorem rejects_integerFirst {n : Int} (hn : Text.digitLimit < (Nat.toDigits 10 n.natAbs).length)
    (name : String) {rest : List Char} (hrest : EndsWord rest) :
    Rejects readText (integerFirst name n rest)
      (.hugeNumber (Nat.toDigits 10 n.natAbs).length) := by
  rw [integerFirst, toList_quoted]
  generalize hbody : (String.join (name.toList.map escapedChar)).toList ++
    '"' :: ':' :: ' ' :: ((toString n).toList ++ rest) = body
  have hvalue : unblanked (' ' :: ((toString n).toList ++ rest)) = (toString n).toList ++ rest := by
    have hnumber := numberAt?_int_append n hrest
    change unblanked ((toString n).toList ++ rest) = _
    cases hcs : (toString n).toList ++ rest with
    | nil => rfl
    | cons c cs =>
      rw [hcs] at hnumber
      exact unblanked_of_startsPart (by rw [startsPart, numberAt?_head hnumber, Bool.true_or]) cs
  have hmember (size levels : Nat) : Rejects (readMember (readWithin size (levels + 1)))
      ('"' :: body) (.hugeNumber (Nat.toDigits 10 n.natAbs).length) := by
    refine (accepts_peek _).rejects ?_
    dsimp only
    rw [if_pos List.head?_cons, ← hbody]
    refine (accepts_readString (Quotes.escaped _ _)).rejects ((accepts_skipBlanks _).rejects
      ((accepts_peek _).rejects ?_))
    rw [show unblanked (':' :: ' ' :: ((toString n).toList ++ rest)) =
      ':' :: ' ' :: ((toString n).toList ++ rest) from rfl, if_pos List.head?_cons]
    refine (accepts_skip 1 _).rejects ((accepts_skipBlanks _).rejects ?_)
    rw [show List.drop 1 (':' :: ' ' :: ((toString n).toList ++ rest)) =
      ' ' :: ((toString n).toList ++ rest) from rfl, hvalue]
    exact (rejects_int hn hrest _ _).bind
  refine (accepts_peek _).rejects ?_
  dsimp only
  rw [if_neg (by simp)]
  refine (accepts_skipBlanks _).rejects (Rejects.bind fun i => ?_)
  have hvalue : Rejects (readWithin (body.length + 3) (body.length + 3)) ('\x7b' :: '"' :: body)
      (.hugeNumber (Nat.toDigits 10 n.natAbs).length) :=
    (accepts_peek _).rejects ((accepts_skip 1 _).rejects ((accepts_skipBlanks _).rejects
      ((accepts_peek _).rejects (hmember _ _).bind.bind)))
  exact hvalue i

theorem parse_of_rejects {text : String} (h : Rejects readText text.toList kind) :
    ∃ i, parse text = .error ⟨kind, i⟩ := by
  obtain ⟨i, hi⟩ := h 0
  refine ⟨i, ?_⟩
  rw [parse]
  change (readText ⟨text.toList, 0⟩).map _ = _
  rw [hi]
  rfl

end Rejecting

/-! ## ASCII -/

theorem toNat_lt_of_isBlank {c : Char} (h : isBlank c = true) : c.toNat < 0x80 := by
  simp only [isBlank, Bool.or_eq_true, beq_iff_eq] at h
  rcases h with ((rfl | rfl) | rfl) | rfl <;> decide

theorem isAscii_ofList_blanks {gap : List Char} (hgap : ∀ c ∈ gap, isBlank c = true) :
    IsAscii (String.ofList gap) := by
  intro c hc
  rw [String.toList_ofList] at hc
  exact toNat_lt_of_isBlank (hgap c hc)

theorem isAscii_separated {sep : String} (hsep : IsAscii sep) {parts : List String}
    (h : ∀ s ∈ parts, IsAscii s) : IsAscii (Text.separated sep parts) := by
  intro c hc
  rcases Text.mem_of_mem_separated hc with hc | ⟨s, hs, hc⟩
  · exact hsep c hc
  · exact h s hs c hc

theorem isAscii_bracketed {opening closing : String} (hopening : IsAscii opening)
    (hclosing : IsAscii closing) (margin : Option Nat) {parts : List String}
    (h : ∀ s ∈ parts, IsAscii s) : IsAscii (bracketed opening closing margin parts) := by
  by_cases hne : parts = []
  · rw [hne]
    exact hopening.append hclosing
  · obtain ⟨before, gap, behind, hbefore, hgap, hbehind, htext⟩ := toList_bracketed margin hne
    have hcomma : IsAscii "," := by decide
    have hparts := isAscii_separated (hcomma.append (isAscii_ofList_blanks hgap)) h
    intro c hc
    rw [htext] at hc
    simp only [List.mem_append] at hc
    rcases hc with hc | hc | hc | hc | hc
    · exact hopening c hc
    · exact toNat_lt_of_isBlank (hbefore c hc)
    · exact hparts c hc
    · exact toNat_lt_of_isBlank (hbehind c hc)
    · exact hclosing c hc

theorem isAscii_toString_int (n : Int) : IsAscii (toString n) := by
  intro c hc
  rw [toList_toString_int] at hc
  rcases List.mem_append.mp hc with hsign | hdigit
  · split_ifs at hsign
    · rw [List.mem_singleton.mp hsign]
      decide
    · cases hsign
  · have hc : c.isDigit = true := Nat.isDigit_of_mem_toDigits (by decide) (by decide) hdigit
    rw [Char.isDigit, Bool.and_eq_true, decide_eq_true_eq, decide_eq_true_eq] at hc
    have hle : c.toNat ≤ '9'.toNat := UInt32.le_iff_toNat_le.mp hc.2
    exact Nat.lt_of_le_of_lt hle (by decide)

theorem Plain.isAscii_write {j : Json} (hj : j.Plain) (margin : Option Nat) :
    IsAscii (write margin j) := by
  induction hj generalizing margin with
  | null => rw [write]; decide
  | bool b => cases b <;> · rw [write]; decide
  | int n => exact isAscii_toString_int n
  | str s => exact isAscii_quoted s
  | arr _ ih =>
    rw [write, writeItems_eq_map]
    refine isAscii_bracketed (by decide) (by decide) margin ?_
    intro s hs
    obtain ⟨j, hj, rfl⟩ := List.mem_map.mp hs
    exact ih j hj _
  | obj _ _ ih =>
    have hcolon : IsAscii ": " := by decide
    rw [write, writeMembers_eq_map]
    refine isAscii_bracketed (by decide) (by decide) margin ?_
    intro s hs
    obtain ⟨m, hm, rfl⟩ := List.mem_map.mp hs
    exact ((isAscii_quoted m.1).append hcolon).append (ih m hm _)

end RequestBook.Json
