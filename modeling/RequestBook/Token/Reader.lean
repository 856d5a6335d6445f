import RequestBook.Token.Lexer

/-!
# Reading token lists

A reader takes tokens from the front of a list and hands back the rest. Taking a token
brings the next one into view, so a fault in the text is reported as soon as the token
before it has been taken. Repetitions and nestings are bounded by the number of tokens: each
round and each level takes at least one.
-/

namespace RequestBook

/-- What a reader may have been waiting for. -/
inductive Expectation where
  | punctuator (p : Punctuator)
  | name
  | keyword (word : String)
  deriving DecidableEq, Repr

def Expectation.description : Expectation → String
  | punctuator p => "'" ++ p.text ++ "'"
  | name => "Name"
  | keyword word => "'" ++ word ++ "'"

/-- Why a token list is not a document. -/
inductive SyntaxFault where
  | lexical (fault : LexFault)
  | unexpected (found : Lexeme)
  | expected (wanted : Expectation) (found : Lexeme)
  | variableInConstant (name : String)
  | describedOperation
  | reservedEnumValue (found : Lexeme)
  deriving DecidableEq, Repr

def SyntaxFault.message : SyntaxFault → String
  | lexical fault => fault.message
  | unexpected found => "Unexpected " ++ found.description ++ "."
  | expected wanted found =>
    "Expected " ++ wanted.description ++ ", found " ++ found.description ++ "."
  | variableInConstant name => "Unexpected variable '$" ++ name ++ "' in constant value."
  | describedOperation =>
    "Unexpected description, descriptions are supported only on type definitions."
  | reservedEnumValue found =>
    found.description ++ " is reserved and cannot be used for an enum value."

structure SyntaxError where
  fault : SyntaxFault
  start : Option Nat
  deriving DecidableEq, Repr

def SyntaxError.message (e : SyntaxError) : String := "Syntax Error: " ++ e.fault.message

/-- A reader knows how many tokens there are in all. -/
abbrev TokenReader := ReaderT Nat (StateT (List Token) (Except SyntaxError))

namespace TokenReader

def reject (fault : SyntaxFault) (t : Token) : TokenReader α := throw ⟨fault, t.start⟩

/-- The token in view; past the end of the list it is the end of the text. -/
def current : TokenReader Token := return (← get).headD ⟨.eof, none⟩

/-- Fails if the token in view is a fault of the text. -/
def checkCurrent : TokenReader Unit := do
  let t ← current
  match t.lexeme with
  | .fault f => reject (.lexical f) t
  | _ => return

def advance : TokenReader Unit := do
  modify (List.drop 1)
  checkCurrent

/-- The token after the one in view. -/
def lookahead : TokenReader Token := do
  let t := ((← get).drop 1).headD ⟨.eof, none⟩
  match t.lexeme with
  | .fault f => reject (.lexical f) t
  | _ => return t

def unexpected : TokenReader α := do
  let t ← current
  reject (.unexpected t.lexeme) t

def isAt (p : Punctuator) : TokenReader Bool := return (← current).lexeme == .punctuator p

def skip? (p : Punctuator) : TokenReader Bool := do
  if ← isAt p then advance; return true
  else return false

def expect (p : Punctuator) : TokenReader Unit := do
  unless ← skip? p do
    let t ← current
    reject (.expected (.punctuator p) t.lexeme) t

def name : TokenReader String := do
  let t ← current
  match t.lexeme with
  | .name s => advance; return s
  | found => reject (.expected .name found) t

def skipKeyword? (word : String) : TokenReader Bool := do
  if (← current).lexeme == .name word then advance; return true
  else return false

def expectKeyword (word : String) : TokenReader Unit := do
  unless ← skipKeyword? word do
    let t ← current
    reject (.expected (.keyword word) t.lexeme) t

/-- Runs a reader with the number of tokens as its bound. -/
def bounded (read : Nat → TokenReader α) : TokenReader α := do read (← readThe Nat)

def itemsUntil (close : Punctuator) (item : TokenReader α) : Nat → TokenReader (List α)
  | 0 => unexpected
  | n + 1 => do
    if ← skip? close then return []
    else
      let x ← item
      return x :: (← itemsUntil close item n)

/-- Any number of items between two punctuators. -/
def any (opening : Punctuator) (item : TokenReader α) (close : Punctuator) :
    TokenReader (List α) := do
  expect opening
  bounded (itemsUntil close item)

/-- At least one item between two punctuators. -/
def many (opening : Punctuator) (item : TokenReader α) (close : Punctuator) :
    TokenReader (List α) := do
  expect opening
  let x ← item
  return x :: (← bounded (itemsUntil close item))

/-- At least one item between two punctuators, or nothing at all. -/
def optionalMany (opening : Punctuator) (item : TokenReader α) (close : Punctuator) :
    TokenReader (List α) := do
  if ← isAt opening then many opening item close else return []

def itemsSeparated (sep : Punctuator) (item : TokenReader α) : Nat → TokenReader (List α)
  | 0 => unexpected
  | n + 1 => do
    let x ← item
    if ← skip? sep then return x :: (← itemsSeparated sep item n) else return [x]

/-- At least one item, with a separator between neighbours and perhaps one in front. -/
def delimited (sep : Punctuator) (item : TokenReader α) : TokenReader (List α) := do
  let _ ← skip? sep
  bounded (itemsSeparated sep item)

def itemsWhile (start : Punctuator) (item : TokenReader α) : Nat → TokenReader (List α)
  | 0 => return []
  | n + 1 => do
    if ← isAt start then
      let x ← item
      return x :: (← itemsWhile start item n)
    else return []

end TokenReader

end RequestBook
