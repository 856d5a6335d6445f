import Mathlib.Data.List.Infix
import RequestBook.Proofs.Json.Words
import RequestBook.Proofs.Outcomes

/-!
# What a JSON text says

A text goes on with a value, and what is left follows it: a relation that knows neither bounds nor
places. The reader of JSON takes exactly the values that stand in this relation, because every value
and every item takes up at least one character, so that its bounds are never met.
-/

namespace RequestBook.Json

open TextReader

/-- What is left of a text behind blanks. -/
def unblanked (cs : List Char) : List Char := cs.dropWhile isBlank

/-! ## Strings -/

/-- The characters up to a closing quote are those of a text. -/
inductive Quotes : List Char → List Char → List Char → Prop
  | close (rest : List Char) : Quotes ('"' :: rest) [] rest
  | plain {c : Char} {cs text rest : List Char} (hquote : c ≠ '"') (hescape : c ≠ '\\')
      (hcontrol : 0x20 ≤ c.toNat) (h : Quotes cs text rest) : Quotes (c :: cs) (c :: text) rest
  | escape {e d : Char} {cs text rest : List Char} (he : Text.simpleEscape e = some d)
      (h : Quotes cs text rest) : Quotes ('\\' :: e :: cs) (d :: text) rest
  | unicode {d : Char} {more : Nat} {digits text rest : List Char}
      (hd : unicodeEscape digits = .ok (d, more)) (h : Quotes (digits.drop (4 + more)) text rest) :
      Quotes ('\\' :: 'u' :: digits) (d :: text) rest

theorem simpleEscape_u : Text.simpleEscape 'u' = none := rfl

theorem stringBody_drop (opening n i : Nat) (seen cs : List Char) :
    stringBody opening n i seen cs = stringBody opening 0 (i + n) seen (cs.drop n) := by
  induction n generalizing i cs with
  | zero => rfl
  | succ n ih =>
    cases cs with
    | nil => simp [stringBody]
    | cons c cs =>
      rw [stringBody, ih, List.drop_succ_cons]
      congr 1
      omega

theorem Quotes.suffix {cs text rest : List Char} (h : Quotes cs text rest) :
    rest <:+ cs ∧ rest.length < cs.length := by
  induction h with
  | close rest => exact ⟨List.suffix_cons _ _, by simp⟩
  | plain _ _ _ _ ih =>
    exact ⟨ih.1.trans (List.suffix_cons _ _), by rw [List.length_cons]; omega⟩
  | escape _ _ ih =>
    refine ⟨ih.1.trans ((List.suffix_cons _ _).trans (List.suffix_cons _ _)), ?_⟩
    rw [List.length_cons, List.length_cons]
    omega
  | @unicode d more digits text rest _ _ ih =>
    have hdrop : (digits.drop (4 + more)).length ≤ digits.length := by
      rw [List.length_drop]
      omega
    refine ⟨ih.1.trans ((List.drop_suffix _ _).trans
      ((List.suffix_cons _ _).trans (List.suffix_cons _ _))), ?_⟩
    rw [List.length_cons, List.length_cons]
    omega

theorem stringBody_plain {c : Char} (hquote : c ≠ '"') (hescape : c ≠ '\\')
    (hcontrol : 0x20 ≤ c.toNat) (opening i : Nat) (seen cs : List Char) :
    stringBody opening 0 i seen (c :: cs) = stringBody opening 0 (i + 1) (c :: seen) cs := by
  rw [stringBody.eq_def]
  dsimp only
  rw [if_neg hquote, if_neg hescape, if_neg (by omega)]

theorem stringBody_escape {e d : Char} (he : Text.simpleEscape e = some d) (opening i : Nat)
    (seen cs : List Char) :
    stringBody opening 0 i seen ('\\' :: e :: cs) = stringBody opening 0 (i + 2) (d :: seen) cs := by
  have hu : e ≠ 'u' := by
    rintro rfl
    rw [simpleEscape_u] at he
    cases he
  rw [stringBody, if_neg (by decide), if_pos rfl, he]
  · dsimp only
    rw [stringBody_drop]
    rfl
  · exact hu

theorem stringBody_unicode {d : Char} {more : Nat} {digits : List Char}
    (hd : unicodeEscape digits = .ok (d, more)) (opening i : Nat) (seen : List Char) :
    stringBody opening 0 i seen ('\\' :: 'u' :: digits) =
      stringBody opening 0 (i + 6 + more) (d :: seen) (digits.drop (4 + more)) := by
  rw [stringBody, if_neg (by decide), if_pos rfl, hd]
  dsimp only
  rw [stringBody_drop, show 5 + more = (4 + more) + 1 by omega, List.drop_succ_cons]
  congr 1
  omega

theorem Quotes.stringBody {cs text rest : List Char} (h : Quotes cs text rest) (opening i : Nat)
    (seen : List Char) :
    stringBody opening 0 i seen cs = .ok (seen.reverse ++ text, i + (cs.length - rest.length)) := by
  induction h generalizing i seen with
  | close rest => simp [Json.stringBody]
  | plain hquote hescape hcontrol h ih =>
    have hlength := h.suffix.2
    rw [stringBody_plain hquote hescape hcontrol, ih]
    simp only [List.reverse_cons, List.append_assoc, List.singleton_append, List.length_cons,
      Except.ok.injEq, Prod.mk.injEq, true_and]
    omega
  | escape he h ih =>
    have hlength := h.suffix.2
    rw [stringBody_escape he, ih]
    simp only [List.reverse_cons, List.append_assoc, List.singleton_append, List.length_cons,
      Except.ok.injEq, Prod.mk.injEq, true_and]
    omega
  | unicode hd h ih =>
    have hlength := h.suffix.2
    rw [stringBody_unicode hd, ih]
    rw [List.length_drop] at hlength ⊢
    simp only [List.reverse_cons, List.append_assoc, List.singleton_append, List.length_cons,
      Except.ok.injEq, Prod.mk.injEq, true_and]
    omega

/-- A body that ends well is that of a text. -/
theorem exists_quotes {opening n i next : Nat} {seen cs text : List Char}
    (h : stringBody opening n i seen cs = .ok (text, next)) :
    ∃ body rest, Quotes (cs.drop n) body rest ∧ text = seen.reverse ++ body := by
  fun_induction stringBody opening n i seen cs with
  | case1 => cases h
  | case2 n i seen c cs ih => exact ih h
  | case3 i seen cs =>
    cases h
    exact ⟨[], cs, .close cs, by simp⟩
  | case4 => cases h
  | case5 i seen digits d more hd _ ih =>
    obtain ⟨body, rest, hbody, rfl⟩ := ih h
    rw [show 5 + more = (4 + more) + 1 by omega, List.drop_succ_cons] at hbody
    exact ⟨d :: body, rest, .unicode hd hbody, by simp⟩
  | case6 => cases h
  | case7 i seen e cs _ d he _ ih =>
    obtain ⟨body, rest, hbody, rfl⟩ := ih h
    exact ⟨d :: body, rest, .escape he hbody, by simp⟩
  | case8 => cases h
  | case9 => cases h
  | case10 i seen c cs hquote hescape hcontrol ih =>
    obtain ⟨body, rest, hbody, rfl⟩ := ih h
    exact ⟨c :: body, rest, .plain hquote hescape (by omega) hbody, by simp⟩

/-! ## Steps of a reader -/

/-- From `cs` the reader takes `x` and leaves `rest`, wherever `cs` stands. -/
def Accepts {α : Type} (r : TextReader α) (cs : List Char) (x : α) (rest : List Char) : Prop :=
  ∀ i, ∃ j, r ⟨cs, i⟩ = .ok (x, ⟨rest, j⟩)

section Steps

variable {α β : Type} {r : TextReader α} {f : α → TextReader β} {cs mid rest : List Char}
  {x : α} {y : β} {c c' : Cursor}

theorem Accepts.pure (x : α) (cs : List Char) : Accepts (Pure.pure x) cs x cs :=
  fun i => ⟨i, rfl⟩

theorem Accepts.bind (h : Accepts r cs x mid) (h' : Accepts (f x) mid y rest) :
    Accepts (r >>= f) cs y rest := by
  intro i
  obtain ⟨j, hj⟩ := h i
  obtain ⟨k, hk⟩ := h' j
  refine ⟨k, ?_⟩
  change (r ⟨cs, i⟩ >>= fun p => f p.1 p.2) = _
  rw [hj]
  exact hk

theorem accepts_peek (cs : List Char) : Accepts peek cs cs.head? cs := fun i => ⟨i, rfl⟩

theorem accepts_skip (n : Nat) (cs : List Char) : Accepts (skip n) cs () (cs.drop n) :=
  fun i => ⟨i + n, rfl⟩

theorem drop_length_takeWhile (p : Char → Bool) (cs : List Char) :
    cs.drop (cs.takeWhile p).length = cs.dropWhile p := by
  induction cs with
  | nil => rfl
  | cons c cs ih =>
    cases hc : p c with
    | false => simp [hc]
    | true => simpa [hc] using ih

theorem accepts_skipBlanks (cs : List Char) : Accepts skipBlanks cs () (unblanked cs) := by
  intro i
  refine ⟨i + (cs.takeWhile isBlank).length, ?_⟩
  rw [unblanked, ← drop_length_takeWhile]
  rfl

/-- What a reader does after another has succeeded. -/
theorem bind_run_eq_ok (h : (r >>= f) c = .ok (y, c')) :
    ∃ x mid, r c = .ok (x, mid) ∧ f x mid = .ok (y, c') := by
  change (r c >>= fun p => f p.1 p.2) = _ at h
  obtain ⟨⟨x, mid⟩, hx, h⟩ := bind_eq_ok.mp h
  exact ⟨x, mid, hx, h⟩

theorem skipBlanks_run (c : Cursor) :
    skipBlanks c = .ok ((), ⟨unblanked c.rest, c.index + (c.rest.takeWhile isBlank).length⟩) := by
  rw [unblanked, ← drop_length_takeWhile]
  rfl

end Steps

/-! ## Leaves -/

theorem readString_apply (cs : List Char) (i : Nat) :
    readString ⟨'"' :: cs, i⟩ = (match stringBody i 0 (i + 1) [] cs with
      | .ok (text, next) => (do skip (next - i); return String.ofList text : TextReader String)
      | .error fault => throw fault) ⟨'"' :: cs, i⟩ := rfl

theorem accepts_readString {cs text rest : List Char} (h : Quotes cs text rest) :
    Accepts readString ('"' :: cs) (String.ofList text) rest := by
  intro i
  have hrest : ('"' :: cs).drop (i + 1 + (cs.length - rest.length) - i) = rest := by
    rw [show i + 1 + (cs.length - rest.length) - i = (cs.length - rest.length) + 1 by omega,
      List.drop_succ_cons]
    exact (List.suffix_iff_eq_drop.mp h.suffix.1).symm
  refine ⟨i + (i + 1 + (cs.length - rest.length) - i), ?_⟩
  rw [readString_apply, h.stringBody]
  change Except.ok (String.ofList text, (⟨('"' :: cs).drop _, _⟩ : Cursor)) = _
  rw [hrest]

theorem readString_run {cs : List Char} {i : Nat} {s : String} {c : Cursor}
    (h : readString ⟨'"' :: cs, i⟩ = .ok (s, c)) : Quotes cs s.toList c.rest := by
  cases hbody : stringBody i 0 (i + 1) [] cs with
  | error fault =>
    rw [readString_apply, hbody] at h
    cases h
  | ok p =>
    obtain ⟨body, rest, hquotes, -⟩ := exists_quotes hbody
    rw [List.drop_zero] at hquotes
    obtain ⟨j, hj⟩ := accepts_readString hquotes i
    rw [hj] at h
    cases h
    rw [String.toList_ofList]
    exact hquotes

theorem readWord_apply (cs : List Char) (i : Nat) :
    readWord ⟨cs, i⟩ =
      (match words.find? fun (w : String × Json) => w.1.toList.isPrefixOf cs with
        | some (word, value) => (do skip word.length; return value : TextReader Json)
        | none => match numberAt? cs with
          | some (.ok value, size) => do skip size; return value
          | some (.error kind, _) => reject kind i
          | none => reject .expectedValue i) ⟨cs, i⟩ := rfl

theorem accepts_readWord {cs : List Char} {v : Json} {n : Nat} (h : wordAt? cs = some (v, n)) :
    Accepts readWord cs v (cs.drop n) := by
  intro i
  refine ⟨i + n, ?_⟩
  rw [wordAt?] at h
  rw [readWord_apply]
  split at h
  · next word value hword =>
    cases h
    rw [hword]
    rfl
  · next hword =>
    rw [hword]
    split at h
    · next value size hnumber =>
      cases h
      dsimp only
      rw [hnumber]
      rfl
    · cases h

theorem readWord_run {c c' : Cursor} {v : Json} (h : readWord c = .ok (v, c')) :
    ∃ n, wordAt? c.rest = some (v, n) ∧ c'.rest = c.rest.drop n := by
  obtain ⟨cs, i⟩ := c
  cases hword : wordAt? cs with
  | some p =>
    obtain ⟨w, n⟩ := p
    obtain ⟨j, hj⟩ := accepts_readWord hword i
    rw [hj] at h
    cases h
    exact ⟨n, rfl, rfl⟩
  | none =>
    rw [wordAt?] at hword
    rw [readWord_apply] at h
    split at hword
    · cases hword
    · next hfind =>
      rw [hfind] at h
      dsimp only at h
      rcases hnumber : numberAt? cs with _ | ⟨_ | value, size⟩
      · rw [hnumber] at h
        cases h
      · rw [hnumber] at h
        cases h
      · rw [hnumber] at hword
        cases hword

/-! ## Values -/

/-- What a text can go on with inside a value. -/
inductive Part where
  | value (j : Json)
  | items (items : List Json)
  | member (m : String × Json)
  | members (members : List (String × Json))

/-- The text goes on with the part, and what is left follows it. Items and members come with the
bracket that closes them. -/
inductive Reads : List Char → Part → List Char → Prop
  | string {cs text rest : List Char} (h : Quotes cs text rest) :
      Reads ('"' :: cs) (.value (.str (String.ofList text))) rest
  | word {cs : List Char} {j : Json} {n : Nat} (h : wordAt? cs = some (j, n)) :
      Reads cs (.value j) (cs.drop n)
  | emptyList {cs rest : List Char} (h : unblanked cs = ']' :: rest) :
      Reads ('[' :: cs) (.value (.arr [])) rest
  | list {cs rest : List Char} {items : List Json} (h : Reads (unblanked cs) (.items items) rest) :
      Reads ('[' :: cs) (.value (.arr items)) rest
  | emptyObject {cs rest : List Char} (h : unblanked cs = '\x7d' :: rest) :
      Reads ('\x7b' :: cs) (.value (.obj [])) rest
  | object {cs rest : List Char} {members : List (String × Json)}
      (h : Reads (unblanked cs) (.members members) rest) :
      Reads ('\x7b' :: cs) (.value (.obj (dedupe members))) rest
  | lastItem {cs mid rest : List Char} {j : Json} (h : Reads cs (.value j) mid)
      (hclose : unblanked mid = ']' :: rest) : Reads cs (.items [j]) rest
  | item {cs mid more rest : List Char} {j : Json} {items : List Json} (h : Reads cs (.value j) mid)
      (hcomma : unblanked mid = ',' :: more) (hmore : Reads (unblanked more) (.items items) rest) :
      Reads cs (.items (j :: items)) rest
  | named {cs name mid more rest : List Char} {j : Json} (h : Quotes cs name mid)
      (hcolon : unblanked mid = ':' :: more) (hvalue : Reads (unblanked more) (.value j) rest) :
      Reads ('"' :: cs) (.member (String.ofList name, j)) rest
  | lastMember {cs mid rest : List Char} {m : String × Json} (h : Reads cs (.member m) mid)
      (hclose : unblanked mid = '\x7d' :: rest) : Reads cs (.members [m]) rest
  | another {cs mid more rest : List Char} {m : String × Json} {members : List (String × Json)}
      (h : Reads cs (.member m) mid) (hcomma : unblanked mid = ',' :: more)
      (hmore : Reads (unblanked more) (.members members) rest) :
      Reads cs (.members (m :: members)) rest

theorem length_unblanked_le (cs : List Char) : (unblanked cs).length ≤ cs.length :=
  (List.dropWhile_suffix _).length_le

theorem length_of_unblanked {c : Char} {cs rest : List Char} (h : unblanked cs = c :: rest) :
    rest.length < cs.length := by
  have hlength := length_unblanked_le cs
  rw [h, List.length_cons] at hlength
  omega

/-- Every part takes up at least one character. -/
theorem Reads.length_lt {cs rest : List Char} {part : Part} (h : Reads cs part rest) :
    rest.length < cs.length := by
  induction h with
  | string h =>
    have hlength := h.suffix.2
    rw [List.length_cons]
    omega
  | word h => exact wordAt?_size h
  | emptyList h | emptyObject h =>
    have hlength := length_of_unblanked h
    rw [List.length_cons]
    omega
  | @list cs _ _ _ ih | @object cs _ _ _ ih =>
    have hlength := length_unblanked_le cs
    rw [List.length_cons]
    omega
  | lastItem _ hclose ih | lastMember _ hclose ih =>
    have hlength := length_of_unblanked hclose
    omega
  | @item _ _ more _ _ _ _ hcomma _ ih ihmore | @another _ _ more _ _ _ _ hcomma _ ih ihmore =>
    have hlength := length_of_unblanked hcomma
    have hblanks := length_unblanked_le more
    omega
  | @named _ _ _ more _ _ h hcolon _ ih =>
    have hlength := h.suffix.2
    have hcolonLength := length_of_unblanked hcolon
    have hblanks := length_unblanked_le more
    rw [List.length_cons]
    omega

/-- The parts of a list or of an object: what each of them is, and how the text goes on with them, up
to the bracket that closes them, and together with both brackets. -/
structure Series (α : Type) where
  one : α → Part
  many : List α → Part
  whole : List α → Json
  opening : Char
  closing : Char
  closing_ends : isWordChar closing = false
  closing_stays : isBlank closing = false
  closing_ne_comma : closing ≠ ','
  last : ∀ {cs mid rest : List Char} {x : α}, Reads cs (one x) mid →
    unblanked mid = closing :: rest → Reads cs (many [x]) rest
  more : ∀ {cs mid next rest : List Char} {x : α} {xs : List α}, Reads cs (one x) mid →
    unblanked mid = ',' :: next → Reads (unblanked next) (many xs) rest → Reads cs (many (x :: xs)) rest
  empty : ∀ {cs rest : List Char}, unblanked cs = closing :: rest →
    Reads (opening :: cs) (.value (whole [])) rest
  some : ∀ {cs rest : List Char} {xs : List α}, Reads (unblanked cs) (many xs) rest →
    Reads (opening :: cs) (.value (whole xs)) rest

namespace Series

def items : Series Json where
  one := .value
  many := .items
  whole := .arr
  opening := '['
  closing := ']'
  closing_ends := rfl
  closing_stays := rfl
  closing_ne_comma := by decide
  last := .lastItem
  more := .item
  empty := .emptyList
  some := .list

def members : Series (String × Json) where
  one := .member
  many := .members
  whole := fun members => .obj (dedupe members)
  opening := '\x7b'
  closing := '\x7d'
  closing_ends := rfl
  closing_stays := rfl
  closing_ne_comma := by decide
  last := .lastMember
  more := .another
  empty := .emptyObject
  some := .object

/-- The reader takes a part, and more of them as long as commas follow. -/
def IsReader {α : Type} (series : Series α) (part : TextReader α)
    (parts : Nat → TextReader (List α)) : Prop :=
  ∀ n, parts (n + 1) = do
    let x ← part
    if ← readSeparator series.closing then return x :: (← parts n) else return [x]

theorem isReader_readItems (value : TextReader Json) : items.IsReader value (readItems value) :=
  fun _ => rfl

theorem isReader_readMembers (value : TextReader Json) :
    members.IsReader (readMember value) (readMembers value) :=
  fun _ => rfl

end Series

/-- What opens a list or an object ends it at once, or its parts follow. -/
def readOpened (close : Char) (empty : Json) (parts : TextReader Json) : TextReader Json := do
  skip 1
  skipBlanks
  if (← peek) = some close then skip 1; return empty
  else parts

/-- What the reader does where a part stands, within its bounds. -/
def IsTaken (size levels : Nat) (cs : List Char) (rest : List Char) : Part → Prop
  | .value j => Accepts (readWithin size levels) cs j rest
  | .items items =>
    ∀ n, cs.length < n → Accepts (readItems (readWithin size levels) n) cs items rest
  | .member m => Accepts (readMember (readWithin size levels)) cs m rest
  | .members members =>
    ∀ n, cs.length < n → Accepts (readMembers (readWithin size levels) n) cs members rest

section Taking

variable {size levels : Nat} {cs mid more rest : List Char}

theorem accepts_separator_close {close : Char} (h : unblanked cs = close :: rest) :
    Accepts (readSeparator close) cs false rest := by
  refine (accepts_skipBlanks cs).bind fun i => ⟨i + 1, ?_⟩
  rw [h]
  change (if close = close then (do skip 1; return false : TextReader Bool) else _) ⟨_, _⟩ = _
  rw [if_pos rfl]
  rfl

theorem accepts_separator_comma {close : Char} (hclose : close ≠ ',')
    (h : unblanked cs = ',' :: more) :
    Accepts (readSeparator close) cs true (unblanked more) := by
  refine (accepts_skipBlanks cs).bind fun i => ?_
  obtain ⟨j, hj⟩ := ((accepts_skip 1 (',' :: more)).bind (f := fun _ => do skipBlanks; return true)
    ((accepts_skipBlanks more).bind (.pure true _))) i
  refine ⟨j, ?_⟩
  rw [h]
  change (if ',' = close then (do skip 1; return false : TextReader Bool)
    else if ',' = ',' then do skip 1; skipBlanks; return true else _) ⟨_, _⟩ = _
  rw [if_neg hclose.symm, if_pos rfl]
  exact hj

theorem accepts_word {j : Json} {n : Nat} (h : wordAt? cs = some (j, n)) :
    Accepts (readWithin size (levels + 1)) cs j (cs.drop n) := by
  refine (accepts_peek cs).bind ?_
  cases cs with
  | nil => cases h
  | cons c cs =>
    have hhead := wordAt?_head h
    split
    · next hc => cases hc; exact absurd hhead (by decide)
    · next hc => cases hc; exact absurd hhead (by decide)
    · next hc => cases hc; exact absurd hhead (by decide)
    · exact accepts_readWord h

theorem accepts_opened_empty {opening close : Char} {j : Json} {parts : TextReader Json}
    (h : unblanked cs = close :: rest) :
    Accepts (readOpened close j parts) (opening :: cs) j rest := by
  refine (accepts_skip 1 _).bind ((accepts_skipBlanks cs).bind ((accepts_peek _).bind ?_))
  rw [h, if_pos List.head?_cons]
  exact (accepts_skip 1 _).bind (.pure _ _)

theorem accepts_opened {opening close : Char} {empty j : Json} {parts : TextReader Json}
    (hhead : (unblanked cs).head? ≠ some close) (h : Accepts parts (unblanked cs) j rest) :
    Accepts (readOpened close empty parts) (opening :: cs) j rest := by
  refine (accepts_skip 1 _).bind ((accepts_skipBlanks cs).bind ((accepts_peek _).bind ?_))
  rw [if_neg hhead]
  exact h

variable {α : Type} {series : Series α} {part : TextReader α} {parts : Nat → TextReader (List α)}
  {x : α} {xs : List α} {n : Nat}

theorem Series.IsReader.accepts_last (hparts : series.IsReader part parts)
    (hpart : Accepts part cs x mid) (hclose : unblanked mid = series.closing :: rest)
    (hn : cs.length < n) : Accepts (parts n) cs [x] rest := by
  cases n with
  | zero => cases hn
  | succ n =>
    rw [hparts n]
    exact hpart.bind ((accepts_separator_close hclose).bind (.pure _ _))

theorem Series.IsReader.accepts_more (hparts : series.IsReader part parts)
    (hpart : Accepts part cs x mid) (hlength : mid.length < cs.length)
    (hcomma : unblanked mid = ',' :: more) (hn : cs.length < n)
    (hmore : ∀ n, (unblanked more).length < n → Accepts (parts n) (unblanked more) xs rest) :
    Accepts (parts n) cs (x :: xs) rest := by
  have hcommaLength := length_of_unblanked hcomma
  have hblanks := length_unblanked_le more
  cases n with
  | zero => cases hn
  | succ n =>
    rw [hparts n]
    exact hpart.bind ((accepts_separator_comma series.closing_ne_comma hcomma).bind
      ((hmore n (by omega)).bind (.pure _ _)))

theorem accepts_named {name : List Char} {j : Json} {value : TextReader Json}
    (h : Quotes cs name mid) (hcolon : unblanked mid = ':' :: more)
    (hvalue : Accepts value (unblanked more) j rest) :
    Accepts (readMember value) ('"' :: cs) (String.ofList name, j) rest := by
  refine (accepts_peek _).bind ?_
  dsimp only
  rw [if_pos List.head?_cons]
  refine (accepts_readString h).bind ((accepts_skipBlanks mid).bind ((accepts_peek _).bind ?_))
  rw [hcolon, if_pos List.head?_cons]
  exact (accepts_skip 1 _).bind ((accepts_skipBlanks more).bind (hvalue.bind (.pure _ _)))

end Taking

/-- Whether a part can start with a character. -/
def startsPart (c : Char) : Bool := startsWord c || ['"', '[', '\x7b'].contains c

theorem Reads.starts {cs rest : List Char} {part : Part} (h : Reads cs part rest) :
    ∃ c more, cs = c :: more ∧ startsPart c = true := by
  induction h with
  | @word cs j n h =>
    cases cs with
    | nil => cases h
    | cons c cs => exact ⟨c, cs, rfl, by rw [startsPart, wordAt?_head h, Bool.true_or]⟩
  | lastItem _ _ ih | lastMember _ _ ih => exact ih
  | item _ _ _ ih | another _ _ _ ih => exact ih
  | _ => exact ⟨_, _, rfl, by decide⟩

theorem Reads.head?_ne {cs rest : List Char} {part : Part} (h : Reads cs part rest) {c : Char}
    (hc : startsPart c = false) : cs.head? ≠ some c := by
  obtain ⟨d, more, rfl, hd⟩ := h.starts
  rintro hhead
  cases hhead
  rw [hc] at hd
  cases hd

/-- No part starts with a blank. -/
theorem unblanked_of_startsPart {c : Char} (hc : startsPart c = true) (cs : List Char) :
    unblanked (c :: cs) = c :: cs := by
  have hblank : ¬isBlank c = true := by
    intro hblank
    simp only [isBlank, Bool.or_eq_true, beq_iff_eq] at hblank
    rcases hblank with ((rfl | rfl) | rfl) | rfl <;> exact absurd hc (by decide)
  rw [unblanked, List.dropWhile_cons_of_neg hblank]

theorem Reads.unblanked_eq {cs rest : List Char} {part : Part} (h : Reads cs part rest) :
    unblanked cs = cs := by
  obtain ⟨c, more, rfl, hc⟩ := h.starts
  exact unblanked_of_startsPart hc more

theorem Reads.isTaken {cs rest : List Char} {part : Part} (h : Reads cs part rest)
    {size levels : Nat} (hsize : cs.length < size) (hlevels : cs.length < levels) :
    IsTaken size levels cs rest part := by
  induction h generalizing levels with
  | string h =>
    cases levels with
    | zero => cases hlevels
    | succ levels => exact (accepts_peek _).bind ((accepts_readString h).bind (.pure _ _))
  | word h =>
    cases levels with
    | zero => cases hlevels
    | succ levels => exact accepts_word h
  | emptyList h | emptyObject h =>
    cases levels with
    | zero => cases hlevels
    | succ levels => exact (accepts_peek _).bind (accepts_opened_empty h)
  | @list cs _ _ h ih | @object cs _ _ h ih =>
    have hlength := length_unblanked_le cs
    rw [List.length_cons] at hsize hlevels
    cases levels with
    | zero => cases hlevels
    | succ levels =>
      have hparts : IsTaken size levels _ _ _ := ih (by omega) (by omega)
      exact (accepts_peek _).bind (accepts_opened (h.head?_ne (by decide))
        ((hparts size (by omega)).bind (.pure _ _)))
  | lastItem h hclose ih =>
    exact fun n hn => (Series.isReader_readItems _).accepts_last (ih hsize hlevels) hclose hn
  | lastMember h hclose ih =>
    exact fun n hn => (Series.isReader_readMembers _).accepts_last (ih hsize hlevels) hclose hn
  | @item cs mid more _ _ _ h hcomma hmore ih ihmore =>
    have hlength := h.length_lt
    have hcommaLength := length_of_unblanked hcomma
    have hblanks := length_unblanked_le more
    exact fun n hn => (Series.isReader_readItems _).accepts_more (ih hsize hlevels) hlength hcomma hn
      (ihmore (by omega) (by omega))
  | @another cs mid more _ _ _ h hcomma hmore ih ihmore =>
    have hlength := h.length_lt
    have hcommaLength := length_of_unblanked hcomma
    have hblanks := length_unblanked_le more
    exact fun n hn => (Series.isReader_readMembers _).accepts_more (ih hsize hlevels) hlength hcomma
      hn (ihmore (by omega) (by omega))
  | @named _ _ _ more _ _ h hcolon _ ih =>
    have hlength := h.suffix.2
    have hcolonLength := length_of_unblanked hcolon
    have hblanks := length_unblanked_le more
    rw [List.length_cons] at hsize hlevels
    exact accepts_named h hcolon (ih (by omega) (by omega))

/-! ## What the reader takes -/

section Taken

variable {c c' : Cursor}

theorem peek_run {head : Option Char} (h : peek c = .ok (head, c')) :
    head = c.rest.head? ∧ c' = c := by
  cases h
  exact ⟨rfl, rfl⟩

theorem skip_run {n : Nat} (h : skip n c = .ok ((), c')) : c'.rest = c.rest.drop n := by
  cases h
  rfl

theorem skipBlanks_rest (h : skipBlanks c = .ok ((), c')) : c'.rest = unblanked c.rest := by
  rw [skipBlanks_run] at h
  cases h
  rfl

theorem separator_run {close : Char} {more : Bool} (h : readSeparator close c = .ok (more, c')) :
    (more = false ∧ unblanked c.rest = close :: c'.rest) ∨
      (more = true ∧ ∃ next, unblanked c.rest = ',' :: next ∧ c'.rest = unblanked next) := by
  obtain ⟨_, mid, hblanks, h⟩ := bind_run_eq_ok h
  have hmid := skipBlanks_rest hblanks
  rw [← hmid]
  obtain ⟨_, _, hget, h⟩ := bind_run_eq_ok h
  cases hget
  cases hrest : mid.rest with
  | nil =>
    rw [hrest] at h
    cases h
  | cons d rest =>
    rw [hrest] at h
    dsimp only at h
    split_ifs at h with hclose hcomma
    · obtain ⟨_, last, hskip, h⟩ := bind_run_eq_ok h
      have hlast := skip_run hskip
      rw [hrest] at hlast
      cases h
      rw [hlast, hclose]
      exact .inl ⟨rfl, rfl⟩
    · obtain ⟨_, after, hskip, h⟩ := bind_run_eq_ok h
      obtain ⟨_, last, hblanks, h⟩ := bind_run_eq_ok h
      have hafter := skip_run hskip
      have hlast := skipBlanks_rest hblanks
      rw [hrest] at hafter
      cases h
      rw [hlast, hafter, hcomma]
      exact .inr ⟨rfl, rest, rfl, rfl⟩
    · cases h

/-- Whatever a reader of values takes is a value of the text. -/
def TakesValues (size : Nat) (value : TextReader Json) : Prop :=
  ∀ c j c', value c = .ok (j, c') → c.rest.length < size → Reads c.rest (.value j) c'.rest

variable {size : Nat} {value : TextReader Json}

/-- If what a reader takes for a part is one, what it takes for several is several. -/
theorem Series.IsReader.reads {α : Type} {series : Series α} {part : TextReader α}
    {parts : Nat → TextReader (List α)} (hparts : series.IsReader part parts)
    (hpart : ∀ c x c', part c = .ok (x, c') → c.rest.length < size →
      Reads c.rest (series.one x) c'.rest)
    {n : Nat} {xs : List α} (h : parts n c = .ok (xs, c')) (hn : c.rest.length < n)
    (hsize : c.rest.length < size) : Reads c.rest (series.many xs) c'.rest := by
  induction n generalizing c xs with
  | zero => cases hn
  | succ n ih =>
    rw [hparts n] at h
    obtain ⟨x, mid, hx, h⟩ := bind_run_eq_ok h
    have hreads := hpart c x mid hx hsize
    have hlength := hreads.length_lt
    obtain ⟨more, after, hseparator, h⟩ := bind_run_eq_ok h
    rcases separator_run hseparator with ⟨rfl, hclose⟩ | ⟨rfl, next, hcomma, hafter⟩
    · cases h
      exact series.last hreads hclose
    · have hcommaLength := length_of_unblanked hcomma
      have hblanks := length_unblanked_le next
      obtain ⟨rest, last, hrest, h⟩ := bind_run_eq_ok h
      cases h
      have hmore := ih hrest (by rw [hafter]; omega) (by rw [hafter]; omega)
      rw [hafter] at hmore
      exact series.more hreads hcomma hmore

theorem readMember_reads (hvalue : TakesValues size value) {m : String × Json}
    (h : readMember value c = .ok (m, c')) (hsize : c.rest.length < size) :
    Reads c.rest (.member m) c'.rest := by
  obtain ⟨head, mid, hpeek, h⟩ := bind_run_eq_ok h
  obtain ⟨rfl, rfl⟩ := peek_run hpeek
  dsimp only at h
  split_ifs at h with hquote
  · obtain ⟨rest, i⟩ := mid
    obtain ⟨cs, rfl⟩ := List.head?_eq_some_iff.mp hquote
    obtain ⟨name, after, hname, h⟩ := bind_run_eq_ok h
    have hquotes := readString_run hname
    obtain ⟨_, blank, hblanks, h⟩ := bind_run_eq_ok h
    have hblank := skipBlanks_rest hblanks
    obtain ⟨head, mid, hpeek, h⟩ := bind_run_eq_ok h
    obtain ⟨rfl, rfl⟩ := peek_run hpeek
    split_ifs at h with hcolon
    · obtain ⟨more, hmore⟩ := List.head?_eq_some_iff.mp hcolon
      obtain ⟨_, behind, hskip, h⟩ := bind_run_eq_ok h
      obtain ⟨_, start, hblanks, h⟩ := bind_run_eq_ok h
      obtain ⟨j, last, hj, h⟩ := bind_run_eq_ok h
      cases h
      have hbehind := skip_run hskip
      have hstart := skipBlanks_rest hblanks
      rw [hmore] at hbehind hblank
      rw [hbehind] at hstart
      have hlength := hquotes.suffix.2
      have hcolonLength := length_of_unblanked hblank.symm
      have hblanksLength := length_unblanked_le more
      have hvalue := hvalue start j _ hj (by
        rw [hstart]
        simp only [List.length_cons, List.drop_succ_cons, List.drop_zero] at hsize ⊢
        omega)
      rw [hstart] at hvalue
      have hnamed := Reads.named hquotes hblank.symm hvalue
      rw [String.ofList_toList] at hnamed
      exact hnamed
    · cases h
  · cases h

theorem opening_else {d : Char} (hquote : d ≠ '"') (hlist : d ≠ '[') (hobject : d ≠ '\x7b')
    (string list object word : TextReader Json) :
    (match some d with
      | some '"' => string
      | some '[' => list
      | some '\x7b' => object
      | _ => word) = word := by
  split
  · next hd => exact absurd (Option.some.inj hd) hquote
  · next hd => exact absurd (Option.some.inj hd) hlist
  · next hd => exact absurd (Option.some.inj hd) hobject
  · rfl

theorem opened_run {close d : Char} {cs : List Char} {i : Nat} {empty j : Json}
    {parts : TextReader Json} (h : readOpened close empty parts ⟨d :: cs, i⟩ = .ok (j, c')) :
    (unblanked cs = close :: c'.rest ∧ j = empty) ∨
      ∃ start, start.rest = unblanked cs ∧ parts start = .ok (j, c') := by
  obtain ⟨_, after, hskip, h⟩ := bind_run_eq_ok h
  obtain ⟨_, start, hblanks, h⟩ := bind_run_eq_ok h
  have hstart := skipBlanks_rest hblanks
  rw [skip_run hskip] at hstart
  obtain ⟨head, mid, hpeek, h⟩ := bind_run_eq_ok h
  obtain ⟨rfl, rfl⟩ := peek_run hpeek
  split_ifs at h with hclose
  · obtain ⟨_, last, hskip, h⟩ := bind_run_eq_ok h
    obtain ⟨rest, hrest⟩ := List.head?_eq_some_iff.mp hclose
    have hlast := skip_run hskip
    cases h
    rw [hrest] at hstart hlast
    rw [hlast]
    exact .inl ⟨hstart.symm, rfl⟩
  · exact .inr ⟨mid, hstart, h⟩

theorem readWithin_reads (size levels : Nat) : TakesValues size (readWithin size levels) := by
  induction levels with
  | zero =>
    intro c j c' h
    cases h
  | succ levels ih =>
    intro c j c' h hsize
    obtain ⟨head, mid, hpeek, h⟩ := bind_run_eq_ok h
    obtain ⟨rfl, rfl⟩ := peek_run hpeek
    obtain ⟨cs, i⟩ := mid
    cases cs with
    | nil =>
      obtain ⟨n, hword, hrest⟩ := readWord_run h
      cases hword
    | cons d cs =>
      have hblanks := length_unblanked_le cs
      have hinner : (unblanked cs).length < size := by
        rw [List.length_cons] at hsize
        omega
      by_cases hquote : d = '"'
      · subst hquote
        obtain ⟨text, last, htext, h⟩ := bind_run_eq_ok h
        cases h
        have hstring := Reads.string (readString_run htext)
        rw [String.ofList_toList] at hstring
        exact hstring
      by_cases hlist : d = '['
      · subst hlist
        obtain ⟨hclose, rfl⟩ | ⟨start, hstart, h⟩ := opened_run h
        · exact .emptyList hclose
        · obtain ⟨items, last, hitems, h⟩ := bind_run_eq_ok h
          cases h
          rw [← hstart] at hinner
          have hreads := (Series.isReader_readItems _).reads ih hitems hinner hinner
          rw [hstart] at hreads
          exact .list hreads
      by_cases hobject : d = '\x7b'
      · subst hobject
        obtain ⟨hclose, rfl⟩ | ⟨start, hstart, h⟩ := opened_run h
        · exact .emptyObject hclose
        · obtain ⟨members, last, hmembers, h⟩ := bind_run_eq_ok h
          cases h
          rw [← hstart] at hinner
          have hreads := (Series.isReader_readMembers _).reads
            (fun _ _ _ => readMember_reads ih) hmembers hinner hinner
          rw [hstart] at hreads
          exact .object hreads
      · have hrun : readWord ⟨d :: cs, i⟩ = .ok (j, c') := by
          rw [← h]
          exact congrFun (opening_else hquote hlist hobject _ _ _ readWord).symm _
        obtain ⟨n, hword, hrest⟩ := readWord_run hrun
        rw [hrest]
        exact .word hword

end Taken

/-! ## Texts -/

theorem Reads.accepts_bounded {cs rest : List Char} {j : Json} (h : Reads cs (.value j) rest) :
    Accepts (bounded fun size => readWithin size size) cs j rest := by
  intro i
  have htaken : IsTaken (cs.length + 1) (cs.length + 1) cs rest (.value j) :=
    h.isTaken (Nat.lt_succ_self _) (Nat.lt_succ_self _)
  obtain ⟨k, hk⟩ := htaken i
  refine ⟨k, ?_⟩
  rw [bounded]
  exact hk

theorem parse_of_reads {text : String} {j : Json} {rest : List Char}
    (h : Reads (unblanked text.toList) (.value j) rest) (hrest : unblanked rest = []) :
    parse text = .ok j := by
  have hmark : text.toList.head? ≠ some '\ufeff' := by
    intro hhead
    obtain ⟨cs, hcs⟩ := List.head?_eq_some_iff.mp hhead
    rw [hcs] at h
    exact h.head?_ne (by decide) rfl
  have haccepts : Accepts readText text.toList j [] := by
    refine (accepts_peek _).bind ?_
    dsimp only
    rw [if_neg hmark]
    refine (accepts_skipBlanks _).bind (h.accepts_bounded.bind ((accepts_skipBlanks _).bind ?_))
    rw [hrest]
    exact fun i => ⟨i, rfl⟩
  obtain ⟨i, hi⟩ := haccepts 0
  rw [parse]
  change (readText ⟨text.toList, 0⟩).map _ = _
  rw [hi]
  rfl

theorem reads_of_parse {text : String} {j : Json} (h : parse text = .ok j) :
    ∃ rest, Reads (unblanked text.toList) (.value j) rest ∧ unblanked rest = [] := by
  rw [parse] at h
  change (readText ⟨text.toList, 0⟩).map _ = _ at h
  cases hrun : readText ⟨text.toList, 0⟩ with
  | error fault =>
    rw [hrun] at h
    cases h
  | ok p =>
    obtain ⟨j', c'⟩ := p
    rw [hrun] at h
    cases h
    obtain ⟨head, mid, hpeek, hrun⟩ := bind_run_eq_ok hrun
    obtain ⟨rfl, rfl⟩ := peek_run hpeek
    split_ifs at hrun with hmark
    · cases hrun
    · obtain ⟨_, start, hblanks, hrun⟩ := bind_run_eq_ok hrun
      obtain ⟨_, behind, hvalue, hrun⟩ := bind_run_eq_ok hrun
      obtain ⟨_, last, hlast, hrun⟩ := bind_run_eq_ok hrun
      have hstart := skipBlanks_rest hblanks
      have hend := skipBlanks_rest hlast
      have hreads := readWithin_reads _ _ _ _ _ hvalue (Nat.lt_succ_self _)
      obtain ⟨_, _, hget, hrun⟩ := bind_run_eq_ok hrun
      cases hget
      rw [hstart] at hreads
      cases hrest : last.rest with
      | cons d cs =>
        rw [hrest] at hrun
        cases hrun
      | nil =>
        rw [hrest] at hrun hend
        cases hrun
        exact ⟨_, hreads, hend.symm⟩

end RequestBook.Json
