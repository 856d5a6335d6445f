import RequestBook.Proofs.Token.Reading

/-!
# Type expressions

A type expression is written by its printer and by the requests in one way, and it is read back
from its lexemes unless one exclamation mark stands directly behind another. Where that happens,
the text is refused or the second mark is left over.
-/

namespace RequestBook

open TokenReader

namespace TypeExpr

def lexemes : TypeExpr → List Lexeme
  | named s => [.name s]
  | list t => .punctuator .bracketL :: (t.lexemes ++ [.punctuator .bracketR])
  | nonNull t => t.lexemes ++ [.punctuator .bang]

/-- Somewhere inside, what must not be null is once more said not to be null. -/
inductive Doubled : TypeExpr → Prop
  | here (t : TypeExpr) : Doubled (.nonNull (.nonNull t))
  | list {t : TypeExpr} (h : Doubled t) : Doubled (.list t)
  | nonNull {t : TypeExpr} (h : Doubled t) : Doubled (.nonNull t)

/-- How many levels of lists there are. -/
def depth : TypeExpr → Nat
  | named _ => 0
  | list t => t.depth + 1
  | nonNull t => t.depth

theorem depth_lt_length (t : TypeExpr) : t.depth < t.lexemes.length := by
  induction t with
  | named s => exact Nat.zero_lt_one
  | list t ih => simp only [depth, lexemes, List.length_cons, List.length_append]; omega
  | nonNull t ih => simp only [depth, lexemes, List.length_append]; omega

/-- The first lexeme of a type is a bracket or its name. -/
theorem exists_lexemes (t : TypeExpr) :
    ∃ l ls, t.lexemes = l :: ls ∧ (l = .punctuator .bracketL ∨ l = .name t.leaf) := by
  induction t with
  | named s => exact ⟨_, _, rfl, Or.inr rfl⟩
  | list t _ => exact ⟨_, _, rfl, Or.inl rfl⟩
  | nonNull t ih =>
    obtain ⟨l, ls, ht, hl⟩ := ih
    exact ⟨l, ls ++ [.punctuator .bang], by rw [lexemes, ht, List.cons_append], hl⟩

theorem sound_lexemes (t : TypeExpr) (rest : List Lexeme) : Sound (t.lexemes ++ rest) := by
  obtain ⟨l, ls, ht, rfl | rfl⟩ := t.exists_lexemes
  · rw [ht]; exact sound_punctuator _ _
  · rw [ht]; exact sound_name _ _

/-! ## Writing -/

/-- A printed type spells its lexemes in front of anything that does not continue its name. -/
theorem spelling_print {t : TypeExpr} (ht : isName t.leaf.toList = true) {ls : List Lexeme}
    {cs : List Char} (hcs : endsToken cs = true) (h : Spelling ls cs) :
    Spelling (t.lexemes ++ ls) (t.print.toList ++ cs) := by
  induction t generalizing ls cs with
  | named s => exact .word ht hcs h
  | list t ih =>
    have hinner : Spelling (t.lexemes ++ .punctuator .bracketR :: ls) (t.print.toList ++ ']' :: cs) :=
      ih ht rfl (.mark rfl h)
    simpa [lexemes, print] using Spelling.mark (c := '[') rfl hinner
  | nonNull t ih =>
    have hinner : Spelling (t.lexemes ++ .punctuator .bang :: ls) (t.print.toList ++ '!' :: cs) :=
      ih ht rfl (.mark rfl h)
    simpa [lexemes, print] using hinner

theorem not_mem_print {t : TypeExpr} {c : Char} (hmark : c ∉ ['[', ']', '!'])
    (ht : c ∉ t.leaf.toList) : c ∉ t.print.toList := by
  simp only [List.mem_cons, List.not_mem_nil, or_false, not_or] at hmark
  induction t with
  | named s => exact ht
  | list t ih => simp [print, hmark, ih ht]
  | nonNull t ih => simp [print, hmark, ih ht]

/-! ## Reading -/

/-- What is read behind the base of a type. -/
def closeType (base : TypeExpr) : TokenReader TypeExpr := do
  if ← skip? .bang then return .nonNull base else return base

theorem readTypeWithin_succ (levels : Nat) :
    readTypeWithin (levels + 1) = (skip? .bracketL >>= fun c =>
      if c = true then
        readTypeWithin levels >>= fun item => expect .bracketR >>= fun _ => closeType (.list item)
      else name >>= fun s => closeType (.named s)) := by
  rw [readTypeWithin]
  rfl

variable {n k : Nat} {t x : TypeExpr} {l : Lexeme} {ls rest left : List Lexeme}

theorem takes_closeType_bang (base : TypeExpr) (h : Sound rest) :
    Takes n (closeType base) (.punctuator .bang :: rest) (.nonNull base) rest :=
  (takes_skip .bang h).bind_true (.pure _ _)

theorem takes_closeType (base : TypeExpr) (hl : l ≠ .punctuator .bang) (ls : List Lexeme) :
    Takes n (closeType base) (l :: ls) base (l :: ls) :=
  (takes_skip_absent hl ls).bind_false (.pure _ _)

theorem takes_named (s : String) (hs : Sound rest) (h : Takes n (closeType (.named s)) rest x left) :
    Takes n (readTypeWithin (k + 1)) (.name s :: rest) x left := by
  rw [readTypeWithin_succ]
  exact (takes_skip_absent (by simp) rest).bind_false ((takes_name s hs).bind h)

theorem takes_list (hs : Sound rest)
    (hi : Takes n (readTypeWithin k) (t.lexemes ++ .punctuator .bracketR :: rest) t
      (.punctuator .bracketR :: rest))
    (h : Takes n (closeType (.list t)) rest x left) :
    Takes n (readTypeWithin (k + 1)) ((list t).lexemes ++ rest) x left := by
  rw [readTypeWithin_succ, lexemes, List.cons_append, List.append_assoc]
  exact (takes_skip _ (t.sound_lexemes _)).bind_true (hi.bind ((takes_expect _ hs).bind h))

/-- What becomes of a type in front of `rest`: one that is marked already stays as it is. -/
def Closes (n : Nat) (rest : List Lexeme) (x : TypeExpr) (left : List Lexeme) : TypeExpr → Prop
  | nonNull t => x = nonNull t ∧ left = rest
  | t => Takes n (closeType t) rest x left

theorem closes_self {t : TypeExpr} (h : l ≠ .punctuator .bang ∨ ∃ u, t = .nonNull u)
    (ls : List Lexeme) : Closes n (l :: ls) t (l :: ls) t := by
  cases t with
  | named s => exact takes_closeType _ (by simpa using h) ls
  | list t => exact takes_closeType _ (by simpa using h) ls
  | nonNull t => exact ⟨rfl, rfl⟩

theorem takes_of_closes (ht : ¬ t.Doubled) (hk : t.depth < k) (hs : Sound rest)
    (h : Closes n rest x left t) :
    Takes n (readTypeWithin k) (t.lexemes ++ rest) x left := by
  induction t generalizing k rest x left with
  | named s =>
    obtain ⟨k, rfl⟩ := Nat.exists_eq_succ_of_ne_zero (Nat.ne_of_gt hk)
    exact takes_named s hs h
  | list u ih =>
    obtain ⟨k, rfl⟩ := Nat.exists_eq_succ_of_ne_zero (Nat.ne_of_gt (Nat.zero_lt_of_lt hk))
    have hu : Takes n (readTypeWithin k) (u.lexemes ++ .punctuator .bracketR :: rest) u
        (.punctuator .bracketR :: rest) :=
      ih (fun hu => ht (.list hu)) (Nat.lt_of_succ_lt_succ hk) (sound_punctuator _ _)
        (closes_self (Or.inl (by simp)) rest)
    exact takes_list hs hu h
  | nonNull u ih =>
    obtain ⟨rfl, rfl⟩ := h
    have hu : Closes n (.punctuator .bang :: left) (.nonNull u) left u := by
      cases u with
      | named s => exact takes_closeType_bang _ hs
      | list u => exact takes_closeType_bang _ hs
      | nonNull u => exact absurd (.here u) ht
    rw [lexemes, List.append_assoc]
    exact ih (fun hu => ht (.nonNull hu)) hk (sound_punctuator _ _) hu

/-- A type without doubled marks is read back, if no mark behind it is taken for its own. -/
theorem takes_lexemes (ht : ¬ t.Doubled) (hk : t.depth < k) (hs : Sound (l :: ls))
    (hl : l ≠ .punctuator .bang ∨ ∃ u, t = .nonNull u) :
    Takes n (readTypeWithin k) (t.lexemes ++ l :: ls) t (l :: ls) :=
  takes_of_closes ht hk hs (closes_self hl ls)

theorem refuses_list {f : SyntaxFault} (hi : Refuses n (readTypeWithin k)
    (t.lexemes ++ .punctuator .bracketR :: rest) f) :
    Refuses n (readTypeWithin (k + 1)) ((list t).lexemes ++ rest) f := by
  rw [readTypeWithin_succ, lexemes, List.cons_append, List.append_assoc]
  exact (takes_skip _ (t.sound_lexemes _)).bind_refuses (hi.bind _)

/-- A mark left over inside brackets stands where they should close. -/
theorem refuses_list_of_left {u : TypeExpr} (hi : Takes n (readTypeWithin k)
    (t.lexemes ++ .punctuator .bracketR :: rest) u (.punctuator .bang :: left)) :
    Refuses n (readTypeWithin (k + 1)) ((list t).lexemes ++ rest)
      (.expected (.punctuator .bracketR) (.punctuator .bang)) := by
  rw [readTypeWithin_succ, lexemes, List.cons_append, List.append_assoc]
  exact (takes_skip _ (t.sound_lexemes _)).bind_refuses
    (hi.bind_refuses ((refuses_expect (by simp) left).bind _))

/-- A doubled mark inside brackets is refused, and one outside of all is left over. -/
theorem refuses_or_leaves_bang (ht : t.Doubled) (hk : t.depth < k) (hs : Sound rest) :
    Refuses n (readTypeWithin k) (t.lexemes ++ rest)
        (.expected (.punctuator .bracketR) (.punctuator .bang)) ∨
      ∃ u left, Takes n (readTypeWithin k) (t.lexemes ++ rest) u (.punctuator .bang :: left) := by
  induction t generalizing k rest with
  | named s => cases ht
  | list u ih =>
    obtain ⟨k, rfl⟩ := Nat.exists_eq_succ_of_ne_zero (Nat.ne_of_gt (Nat.zero_lt_of_lt hk))
    cases ht with
    | list hu =>
      rcases ih hu (Nat.lt_of_succ_lt_succ hk) (sound_punctuator _ _) with hi | ⟨v, left, hi⟩
      · exact Or.inl (refuses_list hi)
      · exact Or.inl (refuses_list_of_left hi)
  | nonNull u ih =>
    rw [lexemes, List.append_assoc]
    by_cases hu : u.Doubled
    · exact ih hu hk (sound_punctuator _ _)
    · cases ht with
      | here v =>
        exact Or.inr ⟨_, rest, takes_lexemes hu hk (sound_punctuator _ _) (Or.inr ⟨v, rfl⟩)⟩
      | nonNull h => exact absurd h hu

end TypeExpr

end RequestBook
