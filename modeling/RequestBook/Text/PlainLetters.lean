import RequestBook.Text.Ranges

/-!
# Plain letters

Some characters of Unicode 14 are other forms of ASCII letters, digits and low lines: full
width, in a style of mathematics, raised, or several letters in one. Names that differ in such
forms only are one name.
-/

namespace RequestBook.Text

/-- Rows of characters, each by its first code point and the plain letters of all in it. -/
def letterForms : List (Nat × List String) :=
  [(0xaa, ["a"]), (0xba, ["o"]), (0x132, ["IJ", "ij"]), (0x17f, ["s"]),
    (0x1c7, ["LJ", "Lj", "lj", "NJ", "Nj", "nj"]), (0x1f1, ["DZ", "Dz", "dz"]), (0x2b0, ["h"]),
    (0x2b2, ["j", "r"]), (0x2b7, ["w", "y"]), (0x2e1, ["l", "s", "x"]), (0x1d2c, ["A"]),
    (0x1d2e, ["B"]), (0x1d30, ["D", "E"]), (0x1d33, ["G", "H", "I", "J", "K", "L", "M", "N"]),
    (0x1d3c, ["O"]), (0x1d3e, ["P", "R", "T", "U", "W", "a"]), (0x1d47, ["b", "d", "e"]),
    (0x1d4d, ["g"]), (0x1d4f, ["k", "m"]), (0x1d52, ["o"]), (0x1d56, ["p", "t", "u"]),
    (0x1d5b, ["v"]), (0x1d62, ["i", "r", "u", "v"]), (0x1d9c, ["c"]), (0x1da0, ["f"]),
    (0x1dbb, ["z"]), (0x2071, ["i"]), (0x207f, ["n"]), (0x2090, ["a", "e", "o", "x"]),
    (0x2095, ["h", "k", "l", "m", "n", "p", "s", "t"]), (0x2102, ["C"]),
    (0x210a, ["g", "H", "H", "H", "h"]), (0x2110, ["I", "I", "L", "l"]), (0x2115, ["N"]),
    (0x2119, ["P", "Q", "R", "R", "R"]), (0x2124, ["Z"]), (0x2128, ["Z"]), (0x212a, ["K"]),
    (0x212c, ["B", "C"]), (0x212f, ["e", "E", "F"]), (0x2133, ["M", "o"]), (0x2139, ["i"]),
    (0x2145, ["D", "d", "e", "i", "j"]),
    (0x2160, ["I", "II", "III", "IV", "V", "VI", "VII", "VIII", "IX", "X", "XI", "XII", "L", "C",
      "D", "M", "i", "ii", "iii", "iv", "v", "vi", "vii", "viii", "ix", "x", "xi", "xii", "l", "c",
      "d", "m"]),
    (0x2c7c, ["j", "V"]), (0xa7f2, ["C", "F", "Q"]),
    (0xfb00, ["ff", "fi", "fl", "ffi", "ffl", "st", "st"]), (0xfe33, ["_", "_"]),
    (0xfe4d, ["_", "_", "_"]), (0x107a5, ["q"])]

/-- Full-width forms stand in the order of ASCII. -/
def fullWidth : Ranges := [(0xff10, 0xff19), (0xff21, 0xff3a), (0xff3f, 0xff3f), (0xff41, 0xff5a)]

/-- How far behind ASCII the full-width forms stand. -/
def fullWidthDistance : Nat := 0xfee0

/-- The letters of mathematics, in which every style has all capitals and then all small letters. -/
def styledLetters : Ranges := [(0x1d400, 0x1d6a3)]

/-- Digits in several styles, each from zero to nine. -/
def styledDigits : Ranges := [(0x1d7ce, 0x1d7ff), (0x1fbf0, 0x1fbf9)]

/-- The place of a character in the range that has it. -/
def Ranges.place? (r : Ranges) (c : Char) : Option Nat :=
  (r.find? fun (first, last) => first ≤ c.toNat && c.toNat ≤ last).map fun (first, _) =>
    c.toNat - first

/-- The capital letters, and the small ones behind them, by their places. -/
def latinLetter (place : Nat) : Char :=
  Char.ofNat (if place < 26 then 'A'.toNat + place else 'a'.toNat + (place - 26))

/-- The letters that a character is another form of; any other character is its own. -/
def plainLetters (c : Char) : List Char :=
  if fullWidth.has c then [Char.ofNat (c.toNat - fullWidthDistance)]
  else if let some place := styledLetters.place? c then [latinLetter (place % 52)]
  else if let some place := styledDigits.place? c then [Char.ofNat ('0'.toNat + place % 10)]
  else
    let form? : Nat × List String → Option String := fun (first, forms) =>
      if first ≤ c.toNat then forms[c.toNat - first]? else none
    ((letterForms.findSome? form?).map String.toList).getD [c]

/-- A name in plain letters. -/
def plainName (name : String) : String := String.ofList (name.toList.flatMap plainLetters)

end RequestBook.Text
