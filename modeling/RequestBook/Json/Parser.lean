import RequestBook.Json.Basic
import RequestBook.Text.Digits
import RequestBook.Text.Escapes
import RequestBook.Text.Layout

/-!
# Reading JSON

A reader of JSON texts that also takes `NaN` and the infinities. A fault says what was
expected and at which character, from which its line and column follow.
-/

namespace RequestBook

namespace Json

inductive FaultKind where
  | byteOrderMark
  | expectedValue
  | expectedName
  | expectedColon
  | expectedComma
  | extraData
  | unterminatedString
  | controlCharacter
  | badEscape
  | badUnicodeEscape
  /-- A whole number of more digits than are read. -/
  | hugeNumber (digits : Nat)
  deriving DecidableEq, Repr

structure Fault where
  kind : FaultKind
  index : Nat
  deriving DecidableEq, Repr

def FaultKind.message : FaultKind → String
  | byteOrderMark => "Unexpected UTF-8 BOM (decode using utf-8-sig)"
  | expectedValue => "Expecting value"
  | expectedName => "Expecting property name enclosed in double quotes"
  | expectedColon => "Expecting ':' delimiter"
  | expectedComma => "Expecting ',' delimiter"
  | extraData => "Extra data"
  | unterminatedString => "Unterminated string starting at"
  | controlCharacter => "Invalid control character at"
  | badEscape => "Invalid \\escape"
  | badUnicodeEscape => "Invalid \\uXXXX escape"
  | hugeNumber digits =>
    s!"Exceeds the limit ({Text.digitLimit} digits) for integer string conversion: value has " ++
      s!"{digits} digits; use sys.set_int_max_str_digits() to increase the limit"

/-- The message with the line, the column and the index of the fault in its text. -/
def Fault.describe (f : Fault) (text : String) : String :=
  let before := text.toList.take f.index
  let line := before.count '\n' + 1
  let column := (before.reverse.takeWhile (· ≠ '\n')).length + 1
  s!"{f.kind.message}: line {line} column {column} (char {f.index})"

/-- What is left of a text, and the index where it starts. -/
structure Cursor where
  rest : List Char
  index : Nat

abbrev TextReader := StateT Cursor (Except Fault)

namespace TextReader

def reject (kind : FaultKind) (index : Nat) : TextReader α := throw ⟨kind, index⟩

def peek : TextReader (Option Char) := return (← get).rest.head?

def skip (n : Nat) : TextReader Unit := modify fun c => ⟨c.rest.drop n, c.index + n⟩

def isBlank (c : Char) : Bool := c == ' ' || c == '\t' || c == '\n' || c == '\r'

def skipBlanks : TextReader Unit := do
  skip ((← get).rest.takeWhile isBlank).length

/-- Runs a reader with the number of characters left as its bound. -/
def bounded (read : Nat → TextReader α) : TextReader α := fun c => read (c.rest.length + 1) c

end TextReader

open TextReader

/-! ## Strings -/

/-- The low half of a surrogate pair, if an escape of one stands here. The text has to go on
behind it. -/
def lowSurrogate? (cs : List Char) : Except Unit (Option Nat) :=
  match cs with
  | '\\' :: 'u' :: digits =>
    if (digits.drop 4).isEmpty then .ok none
    else match Text.hexQuad? (digits.take 4) with
      | none => .error ()
      | some low => .ok (if 0xdc00 ≤ low ∧ low ≤ 0xdfff then some low else none)
  | _ => .ok none

/-- The unit or pair of units whose digits start `cs`, and how many characters beyond the
first four digits it takes. Half of a pair may stand alone. -/
def unicodeEscape (cs : List Char) : Except Nat (Char × Nat) :=
  if (cs.drop 4).isEmpty then .error 0
  else match Text.hexQuad? (cs.take 4) with
    | none => .error 0
    | some high =>
      if 0xd800 ≤ high ∧ high ≤ 0xdbff then
        match lowSurrogate? (cs.drop 4) with
        | .error () => .error 6
        | .ok (some low) =>
          .ok (Char.ofNat (0x10000 + (high - 0xd800) * 0x400 + (low - 0xdc00)), 6)
        | .ok none => .ok (Text.standIn high, 0)
      else if 0xdc00 ≤ high ∧ high ≤ 0xdfff then .ok (Text.standIn high, 0)
      else .ok (Char.ofNat high, 0)

/-- The characters up to the closing quote and how many characters that takes; `opening` is
the index of the opening quote, `index` that of the next character, and `seen` holds the
characters so far, last first. -/
def stringBody (opening : Nat) :
    (skip index : Nat) → (seen : List Char) → List Char → Except Fault (List Char × Nat)
  | _, _, _, [] => .error ⟨.unterminatedString, opening⟩
  | skip + 1, index, seen, _ :: cs => stringBody opening skip (index + 1) seen cs
  | 0, index, seen, c :: cs =>
    if c = '"' then .ok (seen.reverse, index + 1)
    else if c = '\\' then
      match cs with
      | [] => .error ⟨.unterminatedString, opening⟩
      | 'u' :: digits =>
        match unicodeEscape digits with
        | .ok (d, more) => stringBody opening (5 + more) (index + 1) (d :: seen) cs
        | .error more => .error ⟨.badUnicodeEscape, index + 1 + more⟩
      | e :: _ =>
        match Text.simpleEscape e with
        | some d => stringBody opening 1 (index + 1) (d :: seen) cs
        | none => .error ⟨.badEscape, index⟩
    else if c.toNat < 0x20 then .error ⟨.controlCharacter, index⟩
    else stringBody opening 0 (index + 1) (c :: seen) cs

/-- A string whose opening quote is the next character. -/
def readString : TextReader String := do
  let c ← get
  match stringBody c.index 0 (c.index + 1) [] (c.rest.drop 1) with
  | .ok (text, next) => skip (next - c.index); return String.ofList text
  | .error fault => throw fault

/-! ## Numbers -/

/-- The exponent part at the start of `cs`: its value and its size. -/
def exponentPart (cs : List Char) : Option (Int × Nat) :=
  match cs with
  | e :: cs =>
    if e = 'e' ∨ e = 'E' then
      let (negative, signSize, cs) := match cs with
        | '-' :: cs => (true, 1, cs)
        | '+' :: cs => (false, 1, cs)
        | cs => (false, 0, cs)
      let ds := cs.takeWhile Char.isDigit
      if ds.isEmpty then none
      else
        let n : Int := Text.digitsValue ds
        some (if negative then -n else n, 1 + signSize + ds.length)
    else none
  | [] => none

/-- The number at the start of `cs`, with its size; `none` if there is none. -/
def numberAt? (cs : List Char) : Option (Except FaultKind Json × Nat) :=
  let negative := cs.head? = some '-'
  let signSize := if negative then 1 else 0
  let body := cs.drop signSize
  let whole := match body with
    | '0' :: _ => ['0']
    | _ => body.takeWhile Char.isDigit
  if whole.isEmpty then none
  else
    let body := body.drop whole.length
    let part := match body with
      | '.' :: ds => ds.takeWhile Char.isDigit
      | _ => []
    let partSize := if part.isEmpty then 0 else 1 + part.length
    let exponent := exponentPart (body.drop partSize)
    let size := signSize + whole.length + partSize + (exponent.map (·.2)).getD 0
    if part.isEmpty && exponent.isNone then
      if whole.length > Text.digitLimit then some (.error (.hugeNumber whole.length), size)
      else some (.ok (.int ((if negative then -1 else 1) * (Text.digitsValue whole : Int))), size)
    else
      let x := Decimal.toFloat (Text.digitsValue (whole ++ part))
        (((exponent.map (·.1)).getD 0) - part.length)
      some (.ok (.float (if negative then -x else x)), size)

/-! ## Values -/

/-- The words that stand for a value. -/
def words : List (String × Json) :=
  [("null", .null), ("true", .bool true), ("false", .bool false), ("NaN", .float (0.0 / 0.0)),
    ("Infinity", .float (1.0 / 0.0)), ("-Infinity", .float (-1.0 / 0.0))]

def readWord : TextReader Json := do
  let c ← get
  match words.find? fun (word, _) => word.toList.isPrefixOf c.rest with
  | some (word, value) => skip word.length; return value
  | none =>
    match numberAt? c.rest with
    | some (.ok value, size) => skip size; return value
    | some (.error kind, _) => reject kind c.index
    | none => reject .expectedValue c.index

/-- What follows an item: `close` ends the list and a comma goes on. -/
def readSeparator (close : Char) : TextReader Bool := do
  skipBlanks
  let c ← get
  match c.rest with
  | d :: _ =>
    if d = close then skip 1; return false
    else if d = ',' then skip 1; skipBlanks; return true
    else reject .expectedComma c.index
  | [] => reject .expectedComma c.index

def readItems (value : TextReader Json) : Nat → TextReader (List Json)
  | 0 => return []
  | n + 1 => do
    let x ← value
    if ← readSeparator ']' then return x :: (← readItems value n) else return [x]

def readMember (value : TextReader Json) : TextReader (String × Json) := do
  unless (← peek) = some '"' do reject .expectedName (← get).index
  let name ← readString
  skipBlanks
  unless (← peek) = some ':' do reject .expectedColon (← get).index
  skip 1
  skipBlanks
  return (name, ← value)

def readMembers (value : TextReader Json) : Nat → TextReader (List (String × Json))
  | 0 => return []
  | n + 1 => do
    let m ← readMember value
    if ← readSeparator '}' then return m :: (← readMembers value n) else return [m]

/-- A value with fewer than `levels` levels, none of which has more than `size` parts. -/
def readWithin (size : Nat) : (levels : Nat) → TextReader Json
  | 0 => do reject .expectedValue (← get).index
  | levels + 1 => do
    match ← peek with
    | some '"' => return .str (← readString)
    | some '[' =>
      skip 1
      skipBlanks
      if (← peek) = some ']' then skip 1; return .arr []
      else return .arr (← readItems (readWithin size levels) size)
    | some '{' =>
      skip 1
      skipBlanks
      if (← peek) = some '}' then skip 1; return .obj []
      else return .obj (dedupe (← readMembers (readWithin size levels) size))
    | _ => readWord

def readText : TextReader Json := do
  if (← peek) = some '\ufeff' then reject .byteOrderMark 0
  skipBlanks
  let value ← bounded fun size => readWithin size size
  skipBlanks
  match (← get).rest with
  | [] => return value
  | _ => reject .extraData (← get).index

/-- The value that a JSON text writes. -/
def parse (text : String) : Except Fault Json := (readText.run ⟨text.toList, 0⟩).map (·.1)

end Json

end RequestBook
