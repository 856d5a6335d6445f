import RequestBook.Proofs.Document.Places
import RequestBook.Proofs.Document.TakingDefinitions

/-!
# The definition of an echo

An echo is a field that takes an argument of the type that it returns. A text that defines a root
type with an echo is read as that definition, whatever wrappers the type of the echo has.
-/

namespace RequestBook

open TokenReader

/-! ## The definition -/

/-- A field that takes an argument of the type that it returns. -/
def echoField (e : TypeExpr) : FieldDefinition := ⟨none, "f", [⟨none, "a", e, none, []⟩], e, []⟩

/-- The root type with an echo. -/
def echoType (e : TypeExpr) : TypeDefinition :=
  ⟨false, none, "Query", [], .object [] [echoField e]⟩

def echoDocument (e : TypeExpr) : Document := ⟨[.type (echoType e)]⟩

/-- The text that defines an echo of the type with that signature. -/
def echoText (signature : String) : String :=
  "type Query \x7b f(a: " ++ signature ++ "): " ++ signature ++ " \x7d"

/-- The lexemes behind the type of the echo's argument. -/
def echoResult (e : TypeExpr) (rest : List Lexeme) : List Lexeme :=
  .punctuator .parenR :: .punctuator .colon :: (e.lexemes ++ .punctuator .braceR :: rest)

def echoLexemes (e : TypeExpr) (rest : List Lexeme) : List Lexeme :=
  .name "type" :: .name "Query" :: .punctuator .braceL :: .name "f" :: .punctuator .parenL ::
    .name "a" :: .punctuator .colon :: (e.lexemes ++ echoResult e rest)

variable {e : TypeExpr} {n : Nat}

theorem toList_around (a s b c : String) : (a ++ s ++ b ++ s ++ c).toList =
    a.toList ++ (s.toList ++ (b.toList ++ (s.toList ++ c.toList))) := by
  simp only [String.toList_append, List.append_assoc]

theorem spelling_echoText (he : isName e.leaf.toList = true) :
    Spelling (echoLexemes e []) (echoText e.print).toList := by
  have hend : Spelling [.punctuator .braceR] [' ', '}'] := .blank rfl (.mark rfl .nil)
  have hresult : Spelling (echoResult e []) (')' :: ':' :: ' ' :: (e.print.toList ++ [' ', '}'])) :=
    .mark rfl (.mark rfl (.blank rfl (TypeExpr.spelling_print he rfl hend)))
  have hargument := TypeExpr.spelling_print he rfl hresult
  have hfield : Spelling _ ("f".toList ++ '(' :: ("a".toList ++ ':' :: ' ' :: _)) :=
    .word (by decide) rfl (.mark rfl (.word (by decide) rfl (.mark rfl (.blank rfl hargument))))
  have htext : Spelling (echoLexemes e [])
      ("type".toList ++ ' ' :: ("Query".toList ++ ' ' :: '{' :: ' ' :: _)) :=
    .word (by decide) rfl (.blank rfl (.word (by decide) rfl
      (.blank rfl (.mark rfl (.blank rfl hfield)))))
  have hchars : (echoText e.print).toList = _ := toList_around _ _ _ _
  rw [hchars]
  simpa using htext

/-! ## The reading -/

section Absent

variable {l : Lexeme} {ls : List Lexeme}

/-- Nothing is described where no text stands. -/
theorem takesAnywhere_readDescription (s : String) (ls : List Lexeme) :
    TakesAnywhere n readDescription (.name s :: ls) none (.name s :: ls) :=
  blind_readDescription.takesAnywhere (takes_readDescription none s ls)

theorem takesAnywhere_name (s : String) (h : Sound ls) :
    TakesAnywhere n name (.name s :: ls) s ls :=
  blind_name.takesAnywhere (takes_name s h)

theorem takesAnywhere_expect (p : Punctuator) (h : Sound ls) :
    TakesAnywhere n (expect p) (.punctuator p :: ls) () ls :=
  (blind_expect p).takesAnywhere (takes_expect p h)

theorem takesAnywhere_isAt (p : Punctuator) (ls : List Lexeme) :
    TakesAnywhere n (isAt p) (.punctuator p :: ls) true (.punctuator p :: ls) :=
  (blind_isAt p).takesAnywhere (takes_isAt_self p ls)

theorem takesAnywhere_skip (p : Punctuator) (h : Sound ls) :
    TakesAnywhere n (skip? p) (.punctuator p :: ls) true ls :=
  (blind_skip p).takesAnywhere (takes_skip p h)

theorem takesAnywhere_skip_absent {p : Punctuator} (hl : l ≠ .punctuator p) (ls : List Lexeme) :
    TakesAnywhere n (skip? p) (l :: ls) false (l :: ls) :=
  (blind_skip p).takesAnywhere (takes_skip_absent hl ls)

theorem takesAnywhere_readDefault (hl : l ≠ .punctuator .equals) (ls : List Lexeme) :
    TakesAnywhere n readDefault (l :: ls) none (l :: ls) :=
  (takesAnywhere_skip_absent hl ls).bind_false (.pure none _)

theorem takesAnywhere_readDirectives (constant : Bool) (hl : l ≠ .punctuator .atSign)
    (ls : List Lexeme) : TakesAnywhere n (readDirectives constant) (l :: ls) [] (l :: ls) := by
  have hwhile (k : Nat) : TakesAnywhere n (itemsWhile .atSign (readDirective constant) k) (l :: ls)
      [] (l :: ls) := by
    cases k with
    | zero => exact .pure [] _
    | succ k =>
      exact ((blind_isAt .atSign).takesAnywhere (takes_isAt_absent hl ls)).bind_false (.pure [] _)
  exact hwhile n

end Absent

/-- The types of an echo are read back, in front of what follows them. -/
theorem takesAnywhere_readType (hmarks : ¬ e.Doubled) (hn : e.lexemes.length ≤ n) {p : Punctuator}
    (hp : p ≠ .bang) (ls : List Lexeme) :
    TakesAnywhere n readType (e.lexemes ++ .punctuator p :: ls) e (.punctuator p :: ls) :=
  blind_readType.takesAnywhere (takes_bounded (TypeExpr.takes_lexemes hmarks
    (Nat.lt_of_lt_of_le e.depth_lt_length hn) (sound_punctuator p ls) (.inl (by simpa using hp))))

/-- An item between two punctuators. -/
theorem TakesAnywhere.optionalMany {α : Type} {item : TokenReader α} {opening close : Punctuator}
    {l : Lexeme} {ls rest : List Lexeme} {x : α} (hsound : Sound (l :: ls)) (hrest : Sound rest)
    (hn : 0 < n)
    (h : TakesAnywhere n item (l :: ls) x (.punctuator close :: rest)) :
    TakesAnywhere n (optionalMany opening item close) (.punctuator opening :: l :: ls) [x]
      rest := by
  have hclose : TakesAnywhere n (bounded (itemsUntil close item)) (.punctuator close :: rest) []
      rest := by
    obtain ⟨k, rfl⟩ := Nat.exists_eq_succ_of_ne_zero (Nat.ne_of_gt hn)
    exact (takesAnywhere_skip close hrest).bind_true (.pure [] rest)
  exact (takesAnywhere_isAt opening _).bind_true ((takesAnywhere_expect opening hsound).bind
    (h.bind (hclose.bind (.pure [x] rest))))

theorem takesAnywhere_echoArgument (hmarks : ¬ e.Doubled) (hn : e.lexemes.length ≤ n)
    (rest : List Lexeme) :
    TakesAnywhere n readInputDefinition
      (.name "a" :: .punctuator .colon :: (e.lexemes ++ echoResult e rest))
      ⟨none, "a", e, none, []⟩ (echoResult e rest) :=
  (takesAnywhere_readDescription "a" _).bind ((takesAnywhere_name "a" (sound_punctuator _ _)).bind
    ((takesAnywhere_expect .colon (e.sound_lexemes _)).bind
      ((takesAnywhere_readType hmarks hn (by simp) _).bind
        ((takesAnywhere_readDefault (by simp) _).bind
          ((takesAnywhere_readDirectives true (by simp) _).bind (.pure _ _))))))

theorem takesAnywhere_echoField (hmarks : ¬ e.Doubled) (hn : e.lexemes.length < n)
    (rest : List Lexeme) :
    TakesAnywhere n readFieldDefinition (.name "f" :: .punctuator .parenL :: .name "a" ::
      .punctuator .colon :: (e.lexemes ++ echoResult e rest)) (echoField e)
      (.punctuator .braceR :: rest) := by
  have harguments : TakesAnywhere n readArgumentDefinitions (.punctuator .parenL :: _)
      [⟨none, "a", e, none, []⟩] _ :=
    TakesAnywhere.optionalMany (sound_name "a" _)
      (sound_punctuator .colon (e.lexemes ++ .punctuator .braceR :: rest)) (Nat.zero_lt_of_lt hn)
      (takesAnywhere_echoArgument hmarks (Nat.le_of_lt hn) rest)
  exact (takesAnywhere_readDescription "f" _).bind
    ((takesAnywhere_name "f" (sound_punctuator _ _)).bind (harguments.bind
      ((takesAnywhere_expect .colon (e.sound_lexemes _)).bind
        ((takesAnywhere_readType hmarks (Nat.le_of_lt hn) (by simp) _).bind
          ((takesAnywhere_readDirectives true (by simp) _).bind (.pure _ _))))))

theorem takesAnywhere_echoType (hmarks : ¬ e.Doubled) (hn : e.lexemes.length < n) :
    TakesAnywhere n (readTypeDefinition "type") (echoLexemes e [.eof]) (echoType e) [.eof] := by
  have hfields : TakesAnywhere n readFields (.punctuator .braceL :: _) [echoField e] [.eof] :=
    TakesAnywhere.optionalMany (sound_name "f" _) (sound_cons (by simp) []) (Nat.zero_lt_of_lt hn)
      (takesAnywhere_echoField hmarks hn [.eof])
  have hinterfaces (ls : List Lexeme) : TakesAnywhere n readInterfaces (.punctuator .braceL :: ls)
      [] (.punctuator .braceL :: ls) :=
    ((blind_skipKeyword "implements").takesAnywhere
      (takes_skipKeyword_absent (by simp) ls)).bind_false (.pure [] _)
  have hbody : TakesAnywhere n (readTypeBody "type") (.punctuator .braceL :: _)
      ([], .object [] [echoField e]) [.eof] :=
    (hinterfaces _).bind ((takesAnywhere_readDirectives true (by simp) _).bind
      (hfields.bind (.pure _ _)))
  have hkeyword (ls : List Lexeme) : TakesAnywhere n (expectKeyword "type")
      (.name "type" :: .name "Query" :: ls) () (.name "Query" :: ls) :=
    (blind_expectKeyword "type").takesAnywhere (takes_expectKeyword "type" (sound_name "Query" ls))
  exact (takesAnywhere_readDescription "type" _).bind ((hkeyword _).bind
    ((takesAnywhere_name "Query" (sound_punctuator _ _)).bind (hbody.bind (.pure _ _))))

theorem takesAnywhere_echoDocument (hmarks : ¬ e.Doubled) (hn : e.lexemes.length < n) :
    TakesAnywhere n readDocument (echoLexemes e [.eof]) (echoDocument e) [.eof] := by
  have hword (first t : Token) : TakesAnywhere n (definitionOf false first t "type")
      (echoLexemes e [.eof]) (.type (echoType e)) [.eof] := by
    rw [definitionOf, if_neg (by decide), if_pos (by decide)]
    exact (takesAnywhere_echoType hmarks hn).bind (.pure _ _)
  have hdefinition : TakesAnywhere n readDefinition (echoLexemes e [.eof]) (.type (echoType e))
      [.eof] :=
    .current fun start => hword ⟨.name "type", start⟩ ⟨.name "type", start⟩
  have hend (k : Nat) : TakesAnywhere n (readDefinitions (k + 1)) [.eof] [] [.eof] :=
    TakesAnywhere.current fun _ => TakesAnywhere.pure [] [.eof]
  have hnone : TakesAnywhere n (bounded readDefinitions) [.eof] [] [.eof] := by
    obtain ⟨k, rfl⟩ := Nat.exists_eq_succ_of_ne_zero (Nat.ne_of_gt (Nat.zero_lt_of_lt hn))
    exact hend k
  exact (blind_checkCurrent.takesAnywhere (takes_checkCurrent (sound_name "type" _))).bind
    (hdefinition.bind (hnone.bind (.pure _ _)))

/-- The text of an echo is read as its definition. -/
theorem parsePlaced_echoText (he : isName e.leaf.toList = true) (hmarks : ¬ e.Doubled) :
    Document.parsePlaced (echoText e.print) = .ok (echoDocument e) := by
  have htokens : (tokens (echoText e.print)).map Token.lexeme = echoLexemes e [.eof] := by
    have hlexemes := lexemesOf_spelling (spelling_echoText he)
    simpa [lexemesOf, echoLexemes, echoResult] using hlexemes
  have hlength : e.lexemes.length < (tokens (echoText e.print)).length := by
    rw [← List.length_map (f := Token.lexeme), htokens]
    simp only [echoLexemes, List.length_cons, List.length_append]
    omega
  obtain ⟨left, -, hread⟩ := takesAnywhere_echoDocument hmarks hlength _ htokens
  rw [Document.parsePlaced, Document.ofTokens]
  change (readDocument _ _).map (·.1) = _
  rw [hread]
  rfl

end RequestBook
