/-!
# Escapes

What a string literal can write behind a backslash, in a document as in a JSON text: one
character with a meaning of its own, or hexadecimal digits of a code unit. Two units write a
character together where one is not enough.
-/

namespace RequestBook.Text

def hexValue (c : Char) : Option Nat :=
  if c.isDigit then some (c.toNat - '0'.toNat)
  else if 'a' ≤ c ∧ c ≤ 'f' then some (c.toNat - 'a'.toNat + 10)
  else if 'A' ≤ c ∧ c ≤ 'F' then some (c.toNat - 'A'.toNat + 10)
  else none

/-- The number that exactly four hexadecimal digits write. -/
def hexQuad? : List Char → Option Nat
  | [a, b, c, d] => do
    return 4096 * (← hexValue a) + 256 * (← hexValue b) + 16 * (← hexValue c) + (← hexValue d)
  | _ => none

/-- A unit that writes half of a character. -/
def isHalf (unit : Nat) : Bool := 0xd800 ≤ unit && unit < 0xe000

/-- What is read for half of a character that stands alone, where it may. It is no character of its
own: each half has one of the last private-use characters in its place, so that texts which
differ in halves only stay different. -/
def standIn (unit : Nat) : Char := Char.ofNat (unit + 0x102000)

def simpleEscape : Char → Option Char
  | '"' => some '"'
  | '/' => some '/'
  | '\\' => some '\\'
  | 'b' => some '\x08'
  | 'f' => some '\x0c'
  | 'n' => some '\n'
  | 'r' => some '\r'
  | 't' => some '\t'
  | _ => none

end RequestBook.Text
