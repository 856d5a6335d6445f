import RequestBook.Text.Escapes

/-!
# Bytes as text

A file is UTF-8. A response may be in any of the Unicode encodings: its byte order mark
tells which, or else the zero bytes among its first four, since a JSON text starts with
ASCII characters. In a response, half of a surrogate pair may stand alone in every encoding,
which a file does not allow.
-/

namespace RequestBook.Text

inductive Encoding where
  | utf8
  | utf16 (bigEndian : Bool)
  | utf32 (bigEndian : Bool)
  deriving DecidableEq, Repr

namespace Encoding

/-- The byte order marks. One of them starts with another, which comes behind it. -/
def marks : List (List UInt8 × Encoding) :=
  [([0x00, 0x00, 0xfe, 0xff], utf32 true), ([0xff, 0xfe, 0x00, 0x00], utf32 false),
    ([0xfe, 0xff], utf16 true), ([0xff, 0xfe], utf16 false), ([0xef, 0xbb, 0xbf], utf8)]

/-- The encoding of a text without a mark, by which of its bytes are zero. -/
def ofZeros : List Bool → Encoding
  | [true, _] => utf16 true
  | [_, true] => utf16 false
  | true :: true :: _ :: _ :: _ => utf32 true
  | true :: _ :: _ :: _ :: _ => utf16 true
  | _ :: true :: true :: true :: _ => utf32 false
  | _ :: true :: _ :: _ :: _ => utf16 false
  | _ => utf8

/-- The encoding of a JSON text, and how many bytes its byte order mark takes. -/
def detect (bytes : List UInt8) : Encoding × Nat :=
  match marks.find? fun (mark, _) => mark.isPrefixOf bytes with
  | some (mark, encoding) => (encoding, mark.length)
  | none => (ofZeros (bytes.map (· == 0)), 0)

/-- The number that two bytes write. -/
def pair (bigEndian : Bool) (a b : UInt8) : Nat :=
  if bigEndian then 256 * a.toNat + b.toNat else 256 * b.toNat + a.toNat

/-- The 16-bit units of a text; `none` for an odd number of bytes. -/
def units (bigEndian : Bool) : List UInt8 → Option (List Nat)
  | [] => some []
  | a :: b :: rest => (units bigEndian rest).map (pair bigEndian a b :: ·)
  | [_] => none

/-- The unit that three bytes write, if they write half of a pair as UTF-8 writes a character. -/
def half? (a b c : UInt8) : Option Nat :=
  if a = 0xed ∧ 0xa0 ≤ b.toNat ∧ b.toNat < 0xc0 ∧ 0x80 ≤ c.toNat ∧ c.toNat < 0xc0 then
    some (0xd000 + 64 * (b.toNat % 64) + c.toNat % 64)
  else none

/-- Bytes in UTF-8 with a character in the place of every half of a pair. -/
def withStandIns : List UInt8 → List UInt8
  | a :: b :: c :: rest =>
    match half? a b c with
    | some unit => String.utf8EncodeChar (standIn unit) ++ withStandIns rest
    | none => a :: withStandIns (b :: c :: rest)
  | bytes => bytes

section Halves

/-! Whether half of a pair may stand alone is up to the reader. -/

variable (halves : Bool)

/-- The character with a number, if there is one. -/
def char? (n : Nat) : Option Char :=
  if n.isValidChar then some (Char.ofNat n)
  else if halves && isHalf n then some (standIn n)
  else none

/-- Units from 0xd800 to 0xdbff and from 0xdc00 to 0xdfff stand in pairs for the characters
that do not fit in one unit. -/
def charsOfUnits : List Nat → Option (List Char)
  | [] => some []
  | [u] => (char? halves u).map ([·])
  | u :: v :: rest =>
    if 0xd800 ≤ u ∧ u < 0xdc00 ∧ 0xdc00 ≤ v ∧ v < 0xe000 then do
      let c ← char? halves (0x10000 + (u - 0xd800) * 1024 + (v - 0xdc00))
      return c :: (← charsOfUnits rest)
    else do return (← char? halves u) :: (← charsOfUnits (v :: rest))

def charsOfQuads (bigEndian : Bool) : List UInt8 → Option (List Char)
  | [] => some []
  | a :: b :: c :: d :: rest => do
    let first := pair bigEndian a b
    let second := pair bigEndian c d
    let code := if bigEndian then 65536 * first + second else 65536 * second + first
    return (← char? halves code) :: (← charsOfQuads bigEndian rest)
  | _ => none

/-- The text that bytes write in an encoding. -/
def read (bytes : List UInt8) : Encoding → Option String
  | utf8 => String.fromUTF8? ⟨(if halves then withStandIns bytes else bytes).toArray⟩
  | utf16 bigEndian => (units bigEndian bytes >>= charsOfUnits halves).map String.ofList
  | utf32 bigEndian => (charsOfQuads halves bigEndian bytes).map String.ofList

end Halves

/-- The text that bytes write in an encoding, of whole characters only. -/
def decode (bytes : List UInt8) (encoding : Encoding) : Option String := encoding.read false bytes

/-! ## Reading what may be damaged -/

/-- What the first byte of a character leaves to read. -/
structure Opening where
  /-- The character, if one byte is enough, or the sign for a byte that opens nothing. -/
  written : List Char
  /-- The bits of the code point so far. -/
  bits : Nat
  /-- How many bytes are to follow. -/
  missing : Nat
  /-- The least and the greatest byte that may follow next. -/
  least : Nat
  greatest : Nat

/-- The sign that stands for bytes that write no character. -/
def replacement : Char := '\ufffd'

/-- What a byte opens in UTF-8; the next byte rules out long forms, and numbers that are no
code points of characters. -/
def opening (b : UInt8) : Opening :=
  let n := b.toNat
  if n < 0x80 then ⟨[Char.ofNat n], 0, 0, 0, 0⟩
  else if 0xc2 ≤ n ∧ n < 0xe0 then ⟨[], n % 32, 1, 0x80, 0xbf⟩
  else if 0xe0 ≤ n ∧ n < 0xf0 then
    ⟨[], n % 16, 2, if n = 0xe0 then 0xa0 else 0x80, if n = 0xed then 0x9f else 0xbf⟩
  else if 0xf0 ≤ n ∧ n < 0xf5 then
    ⟨[], n % 8, 3, if n = 0xf0 then 0x90 else 0x80, if n = 0xf4 then 0x8f else 0xbf⟩
  else ⟨[replacement], 0, 0, 0, 0⟩

/-- The rest of a UTF-8 text of which an opening has been read. -/
def restoreFrom (o : Opening) : List UInt8 → List Char
  | [] => if o.missing = 0 then [] else [replacement]
  | b :: bs =>
    if o.missing = 0 then
      let next := opening b
      next.written ++ restoreFrom next bs
    else if o.least ≤ b.toNat ∧ b.toNat ≤ o.greatest then
      let bits := 64 * o.bits + b.toNat % 64
      if o.missing = 1 then Char.ofNat bits :: restoreFrom ⟨[], 0, 0, 0, 0⟩ bs
      else restoreFrom ⟨[], bits, o.missing - 1, 0x80, 0xbf⟩ bs
    else
      let next := opening b
      replacement :: next.written ++ restoreFrom next bs

/-- A UTF-8 text in which bytes that write no character are replaced by a sign, one for each
beginning of a character that does not go on as it should. -/
def restore (bytes : List UInt8) : List Char := restoreFrom ⟨[], 0, 0, 0, 0⟩ bytes

/-! ## Reading what a server sends -/

/-- The text that bytes write in the encoding that they tell themselves. Halves of pairs are let
in. -/
def decodeDetected (bytes : List UInt8) : Option String :=
  let (encoding, mark) := detect bytes
  encoding.read true (bytes.drop mark)

end Encoding

end RequestBook.Text
