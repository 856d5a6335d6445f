import RequestBook.Name
import RequestBook.Text.Escapes
import RequestBook.Token.Basic
import RequestBook.Token.BlockText

/-!
# Reading tokens

A text is read character by character. Where a token starts, the whole token is read
ahead and its remaining characters are then skipped, so the recursion is on the text
itself. Blanks, commas, line breaks, byte-order marks and comments separate tokens and
are otherwise ignored.
-/

namespace RequestBook

/-- What is read where a token starts: a lexeme and how many characters it takes, or a
fault and how far from the start it shows. -/
inductive Reading where
  | lexeme (lexeme : Lexeme) (size : Nat)
  | fault (fault : LexFault) (offset : Nat)
  deriving DecidableEq, Repr

namespace Reading

def isIgnored (c : Char) : Bool :=
  c == ' ' || c == '\t' || c == ',' || c == '\n' || c == '\r' || c == '\ufeff'

/-! ## Numbers -/

/-- The index after the run of digits that has to stand at index `k`. -/
def digitsEnd (cs : List Char) (k : Nat) : Except (LexFault × Nat) Nat :=
  match ((cs.drop k).takeWhile Char.isDigit).length with
  | 0 => .error (.expectedDigit cs[k]?, k)
  | n => .ok (k + n)

def integerEnd (cs : List Char) : Except (LexFault × Nat) Nat :=
  let signed := if cs.head? = some '-' then 1 else 0
  if cs[signed]? = some '0' then
    match cs[signed + 1]? with
    | some c => if c.isDigit then .error (.digitAfterZero c, signed + 1) else .ok (signed + 1)
    | none => .ok (signed + 1)
  else digitsEnd cs signed

def fractionEnd (cs : List Char) (k : Nat) : Except (LexFault × Nat) Nat :=
  if cs[k]? = some '.' then digitsEnd cs (k + 1) else .ok k

def exponentEnd (cs : List Char) (k : Nat) : Except (LexFault × Nat) Nat :=
  if cs[k]? = some 'e' ∨ cs[k]? = some 'E' then
    if cs[k + 1]? = some '+' ∨ cs[k + 1]? = some '-' then digitsEnd cs (k + 2)
    else digitsEnd cs (k + 1)
  else .ok k

/-- A number must not run on into a point or a name. -/
def runsOn (c : Option Char) : Bool :=
  match c with
  | some c => c == '.' || isNameStart c
  | none => false

def number (cs : List Char) : Reading :=
  let ends := do
    let whole ← integerEnd cs
    let size ← exponentEnd cs (← fractionEnd cs whole)
    if runsOn cs[size]? then .error (.expectedDigit cs[size]?, size)
    else return (whole, size)
  match ends with
  | .error (f, offset) => .fault f offset
  | .ok (whole, size) =>
    let text := String.ofList (cs.take size)
    .lexeme (if size = whole then .int text else .float text) size

/-! ## Strings -/

def scalar? (n : Nat) : Option Char :=
  if h : n.isValidChar then some (Char.ofNatAux n h) else none

/-- The hexadecimal digits after an escape's opening brace, read up to the closing one or
up to what makes the escape wrong. `size` counts the characters of the escape so far, of
which there can be twelve. -/
def bracedEscape : (size point : Nat) → List Char → Option Char × Nat
  | size, _, [] => (none, size)
  | size, point, c :: cs =>
    if size ≥ 12 then (none, size)
    else if c = '}' then
      (if size + 1 < 5 then none else scalar? point, size + 1)
    else match Text.hexValue c with
      | none => (none, size + 1)
      | some digit => bracedEscape (size + 1) (16 * point + digit) cs

/-- A four-digit escape, or two of them that form a surrogate pair; `cs` starts at the
backslash. -/
def quadEscape (cs : List Char) : Except LexFault (Char × Nat) :=
  let quad := (cs.drop 2).take 4
  let bad := LexFault.badUnicodeEscape (String.ofList (cs.take 6))
  if quad.length < 4 then .error .cutEscape
  else match Text.hexQuad? quad with
    | none => .error bad
    | some high =>
      match scalar? high with
      | some c => .ok (c, 6)
      | none =>
        if high < 0xDC00 ∧ (cs.drop 6).take 2 = ['\\', 'u'] then
          let quad := (cs.drop 8).take 4
          if quad.length < 4 then .error .cutEscape
          else match Text.hexQuad? quad with
            | some low =>
              if 0xDC00 ≤ low ∧ low ≤ 0xDFFF then
                match scalar? (0x10000 + (high - 0xD800) * 0x400 + (low - 0xDC00)) with
                | some c => .ok (c, 12)
                | none => .error bad
              else .error bad
            | none => .error bad
        else .error bad

/-- The escape at the start of `cs`, with its size. -/
def escape (cs : List Char) : Except LexFault (Char × Nat) :=
  match cs with
  | '\\' :: 'u' :: '{' :: rest =>
    match bracedEscape 3 0 rest with
    | (some c, size) => .ok (c, size)
    | (none, size) => .error (.badUnicodeEscape (String.ofList (cs.take size)))
  | '\\' :: 'u' :: _ => quadEscape cs
  | '\\' :: c :: _ =>
    match Text.simpleEscape c with
    | some d => .ok (d, 2)
    | none => .error (.badEscape (String.ofList (cs.take 2)))
  | _ => .error .cutEscape

/-- The characters of a string after its opening quote. `index` is that of the next
character in the token and `seen` holds the characters so far, last first. -/
def stringBody : (skip index : Nat) → (seen : List Char) → List Char → Reading
  | _, index, _, [] => .fault .unterminatedString index
  | skip + 1, index, seen, _ :: cs => stringBody skip (index + 1) seen cs
  | 0, index, seen, c :: cs =>
    if c = '"' then .lexeme (.string (String.ofList seen.reverse)) (index + 1)
    else if c = '\n' ∨ c = '\r' then .fault .unterminatedString index
    else if c = '\\' then
      match escape (c :: cs) with
      | .ok (d, size) => stringBody (size - 1) (index + 1) (d :: seen) cs
      | .error f => .fault f index
    else stringBody 0 (index + 1) (c :: seen) cs

/-- The lines of a block string after its opening quotes, with the number of characters
up to and including the closing quotes. `line` is the line being read and `lines` those
before it, both last first. -/
def blockBody : (index : Nat) → (line : List Char) → (lines : List (List Char)) → List Char →
    Reading
  | index, _, _, [] => .fault .unterminatedString index
  | index, line, lines, '"' :: '"' :: '"' :: _ =>
    let text := BlockText.dedent (line.reverse :: lines).reverse
    .lexeme (.blockString (String.ofList (['\n'].intercalate text))) (index + 3)
  | index, line, lines, '\\' :: '"' :: '"' :: '"' :: cs =>
    blockBody (index + 4) ('"' :: '"' :: '"' :: line) lines cs
  | index, line, lines, '\r' :: '\n' :: cs => blockBody (index + 2) [] (line.reverse :: lines) cs
  | index, line, lines, c :: cs =>
    if c = '\n' ∨ c = '\r' then blockBody (index + 1) [] (line.reverse :: lines) cs
    else blockBody (index + 1) (c :: line) lines cs

/-! ## All tokens -/

/-- The reading at a character that is neither ignored nor the start of a comment. -/
def of (c : Char) (cs : List Char) : Reading :=
  match Punctuator.ofChar? c with
  | some p => .lexeme (.punctuator p) 1
  | none =>
    if c = '.' ∧ cs.take 2 = ['.', '.'] then .lexeme (.punctuator .spread) 3
    else if c = '"' then
      if cs.take 2 = ['"', '"'] then blockBody 3 [] [] (cs.drop 2) else stringBody 0 1 [] cs
    else if c.isDigit ∨ c = '-' then number (c :: cs)
    else if isNameStart c then
      let text := c :: cs.takeWhile isNameContinue
      .lexeme (.name (String.ofList text)) text.length
    else if c = '\'' then .fault .singleQuote 0
    else .fault (.unexpectedChar c) 0

end Reading

def isCommentChar (c : Char) : Bool := c != '\n' && c != '\r'

/-- The tokens of a text whose first `skip` characters belong to what was read before;
`index` is the place of the text's first character. -/
def tokensFrom : (skip index : Nat) → List Char → List Token
  | _, index, [] => [⟨.eof, some index⟩]
  | skip + 1, index, _ :: cs => tokensFrom skip (index + 1) cs
  | 0, index, c :: cs =>
    if Reading.isIgnored c then tokensFrom 0 (index + 1) cs
    else if c = '#' then tokensFrom (cs.takeWhile isCommentChar).length (index + 1) cs
    else match Reading.of c cs with
      | .lexeme lexeme size => ⟨lexeme, some index⟩ :: tokensFrom (size - 1) (index + 1) cs
      | .fault f offset => [⟨.fault f, some (index + offset)⟩]

/-- The tokens of a text, each with its place. -/
def tokens (text : String) : List Token := tokensFrom 0 0 text.toList

end RequestBook
