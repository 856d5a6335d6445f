import RequestBook.Text.Layout

/-!
# Tokens

The words of the request language. A token list ends with `eof`, or with a `fault`
where the text stops being a sequence of words, so that a reader meets the fault
exactly when it gets there.
-/

namespace RequestBook

inductive Punctuator where
  | bang | dollar | amp | parenL | parenR | spread | colon | equals | atSign
  | bracketL | bracketR | braceL | pipe | braceR
  deriving DecidableEq, Repr

namespace Punctuator

def text : Punctuator → String
  | bang => "!"
  | dollar => "$"
  | amp => "&"
  | parenL => "("
  | parenR => ")"
  | spread => "..."
  | colon => ":"
  | equals => "="
  | atSign => "@"
  | bracketL => "["
  | bracketR => "]"
  | braceL => "\x7b"
  | pipe => "|"
  | braceR => "\x7d"

/-- The punctuators that are one character. -/
def ofChar? : Char → Option Punctuator
  | '!' => some bang
  | '$' => some dollar
  | '&' => some amp
  | '(' => some parenL
  | ')' => some parenR
  | ':' => some colon
  | '=' => some equals
  | '@' => some atSign
  | '[' => some bracketL
  | ']' => some bracketR
  | '{' => some braceL
  | '|' => some pipe
  | '}' => some braceR
  | _ => none

end Punctuator

/-- Why a text stops being a sequence of tokens. -/
inductive LexFault where
  | unexpectedChar (c : Char)
  | singleQuote
  | digitAfterZero (c : Char)
  | expectedDigit (found : Option Char)
  | unterminatedString
  | badUnicodeEscape (text : String)
  | badEscape (text : String)
  /-- The text ends inside an escape. -/
  | cutEscape
  deriving DecidableEq, Repr

inductive Lexeme where
  | punctuator (p : Punctuator)
  | name (text : String)
  | int (text : String)
  | float (text : String)
  | string (text : String)
  | blockString (text : String)
  | eof
  | fault (fault : LexFault)
  deriving DecidableEq, Repr

/-- A lexeme and, unless places do not matter, the index of its first character. -/
structure Token where
  lexeme : Lexeme
  start : Option Nat
  deriving DecidableEq, Repr

def Token.unplaced (t : Token) : Token := { t with start := none }

/-- The text that a name, number or string carries. -/
def Lexeme.text? : Lexeme → Option String
  | name s | int s | float s | string s | blockString s => some s
  | _ => none

namespace LexFault

/-- A character of a fault: itself if it is visible ASCII, its code point otherwise. -/
def shownChar : Option Char → String
  | none => "<EOF>"
  | some c =>
    if ' ' ≤ c ∧ c ≤ '~' then
      if c = '"' then "'\"'" else "'" ++ c.toString ++ "'"
    else "U+" ++ Text.hexDigits true 4 c.toNat

def message : LexFault → String
  | unexpectedChar c => "Unexpected character: " ++ shownChar (some c) ++ "."
  | singleQuote =>
    "Unexpected single quote character ('), did you mean to use a double quote (\")?"
  | digitAfterZero c => "Invalid number, unexpected digit after 0: " ++ shownChar (some c) ++ "."
  | expectedDigit found => "Invalid number, expected digit but got: " ++ shownChar found ++ "."
  | unterminatedString => "Unterminated string."
  | badUnicodeEscape text => "Invalid Unicode escape sequence: '" ++ text ++ "'."
  | badEscape text => "Invalid character escape sequence: '" ++ text ++ "'."
  | cutEscape => "string index out of range"

end LexFault

namespace Lexeme

/-- How a token is named in an error message. -/
def description : Lexeme → String
  | punctuator p => "'" ++ p.text ++ "'"
  | name s => "Name '" ++ s ++ "'"
  | int s => "Int '" ++ s ++ "'"
  | float s => "Float '" ++ s ++ "'"
  | string s => "String '" ++ s ++ "'"
  | blockString s => "BlockString '" ++ s ++ "'"
  | eof => "<EOF>"
  | fault f => f.message

end Lexeme

end RequestBook
