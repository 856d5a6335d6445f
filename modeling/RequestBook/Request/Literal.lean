import RequestBook.Text.CharacterNames
import RequestBook.Text.Encoding
import RequestBook.Text.Escapes
import RequestBook.Text.Layout

/-!
# Literals in templates

The text of a literal is ASCII, in which characters beyond it are escapes too. So a backslash
in front of such a character escapes the backslash that the character itself is written with.
-/

namespace RequestBook.Literal

/-- A character in ASCII. -/
def asciiForm (c : Char) : List Char :=
  let escaped (letter : Char) (width : Nat) :=
    '\\' :: letter :: (Text.hexDigits false width c.toNat).toList
  if c.toNat < 0x80 then [c]
  else if c.toNat < 0x100 then escaped 'x' 2
  else if c.toNat < 0x10000 then escaped 'u' 4
  else escaped 'U' 8

/-- The character whose number stands in front of a text in `size` hexadecimal digits. -/
def hexadecimal? (size : Nat) (cs : List Char) : Option Char := do
  let digits := cs.take size
  guard (digits.length = size)
  Text.Encoding.char? true ((← digits.mapM Text.hexValue).foldl (fun n d => 16 * n + d) 0)

def isOctalDigit (c : Char) : Bool := '0' ≤ c && c ≤ '7'

/-- The characters that one letter or sign behind a backslash stands for. -/
def simple? : Char → Option (List Char)
  | '\n' => some []
  | '\\' => some ['\\']
  | '\'' => some ['\'']
  | '"' => some ['"']
  | 'a' => some ['\x07']
  | 'b' => some ['\x08']
  | 'f' => some ['\x0c']
  | 'n' => some ['\n']
  | 'r' => some ['\r']
  | 't' => some ['\t']
  | 'v' => some ['\x0b']
  | _ => none

/-- What an escape writes, and how many characters of it stand behind the backslash. A letter
that starts no escape leaves the backslash in place. -/
def escape? : List Char → Option (List Char × Nat)
  | [] => none
  | 'x' :: cs => (hexadecimal? 2 cs).map fun c => ([c], 3)
  | 'u' :: cs => (hexadecimal? 4 cs).map fun c => ([c], 5)
  | 'U' :: cs => (hexadecimal? 8 cs).map fun c => ([c], 9)
  | 'N' :: cs => do
    guard (cs.head? = some '{' && cs.contains '}')
    let name := (cs.drop 1).takeWhile (· ≠ '}')
    return ([← Text.characterNamed? (String.ofList name)], name.length + 3)
  | c :: cs =>
    if isOctalDigit c then
      let digits := (c :: cs.take 2).takeWhile isOctalDigit
      let n := digits.foldl (fun n d => 8 * n + (d.toNat - '0'.toNat)) 0
      (Text.Encoding.char? true n).map fun c => ([c], digits.length)
    else some ((simple? c).getD ['\\', c], 1)

/-- The text that ASCII characters write; the first `skip` of them have been read. -/
def readFrom : (skip : Nat) → List Char → Option (List Char)
  | _, [] => some []
  | skip + 1, _ :: cs => readFrom skip cs
  | 0, c :: cs =>
    if c = '\\' then do
      let (written, size) ← escape? cs
      return written ++ (← readFrom size cs)
    else (readFrom 0 cs).map (c :: ·)

/-- The text of a literal, quotes aside; `none` if an escape in it is not complete. -/
def text? (cs : List Char) : Option (List Char) := readFrom 0 (cs.flatMap asciiForm)

end RequestBook.Literal
