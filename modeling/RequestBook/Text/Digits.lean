/-!
# Digits of all scripts

The decimal digits of Unicode 14, which come in runs of ten from zero to nine, and the
plain form of a number text: ASCII digits, without the underscores that may stand between
two digits.
-/

namespace RequestBook.Text

/-- The zeros of all scripts; the nine digits of a script follow its zero. -/
def zeroCodes : List Nat :=
  [0x30, 0x660, 0x6f0, 0x7c0, 0x966, 0x9e6, 0xa66, 0xae6, 0xb66, 0xbe6, 0xc66, 0xce6, 0xd66,
    0xde6, 0xe50, 0xed0, 0xf20, 0x1040, 0x1090, 0x17e0, 0x1810, 0x1946, 0x19d0, 0x1a80, 0x1a90,
    0x1b50, 0x1bb0, 0x1c40, 0x1c50, 0xa620, 0xa8d0, 0xa900, 0xa9d0, 0xa9f0, 0xaa50, 0xabf0,
    0xff10, 0x104a0, 0x10d30, 0x11066, 0x110f0, 0x11136, 0x111d0, 0x112f0, 0x11450, 0x114d0,
    0x11650, 0x116c0, 0x11730, 0x118e0, 0x11950, 0x11c50, 0x11d50, 0x11da0, 0x16a60, 0x16ac0,
    0x16b50, 0x1d7ce, 0x1d7d8, 0x1d7e2, 0x1d7ec, 0x1d7f6, 0x1e140, 0x1e2f0, 0x1e950, 0x1fbf0]

/-- A decimal digit of any script as the ASCII digit of its value; else the character itself. -/
def plainDigit (c : Char) : Char :=
  match zeroCodes.find? fun first => first ≤ c.toNat && c.toNat < first + 10 with
  | some first => Char.ofNat ('0'.toNat + (c.toNat - first))
  | none => c

/-- The most digits of a whole number that is read. -/
def digitLimit : Nat := 4300

def digitsValue (ds : List Char) : Nat := ds.foldl (fun n c => 10 * n + (c.toNat - '0'.toNat)) 0

/-- The text without its underscores, each of which has to stand between two digits; `before`
is the character in front. -/
def withoutUnderscores? (before : Char) : List Char → Option (List Char)
  | [] => some []
  | '_' :: cs =>
    if before.isDigit && (cs.head?.map Char.isDigit).getD false then withoutUnderscores? '_' cs
    else none
  | c :: cs => (withoutUnderscores? c cs).map (c :: ·)

/-- The plain form of a number text. -/
def plainNumber? (cs : List Char) : Option (List Char) :=
  withoutUnderscores? ' ' (cs.map plainDigit)

end RequestBook.Text
