/-!
# White space

The characters with the Unicode property of white space, together with the four
information separators, and the removal of such characters from both ends of a text.
-/

namespace RequestBook.Text

def isSpace (c : Char) : Bool :=
  let n := c.toNat
  (0x09 ≤ n && n ≤ 0x0d) || (0x1c ≤ n && n ≤ 0x20) || n == 0x85 || n == 0xa0 || n == 0x1680 ||
    (0x2000 ≤ n && n ≤ 0x200a) || n == 0x2028 || n == 0x2029 || n == 0x202f || n == 0x205f ||
    n == 0x3000

/-- The four information separators. -/
def isSeparator (c : Char) : Bool := 0x1c ≤ c.toNat && c.toNat ≤ 0x1f

/-- White space that may stand around a number. -/
def isMargin (c : Char) : Bool := isSpace c && !isSeparator c

/-- A text without the characters of a kind at both of its ends. -/
def trim (kind : Char → Bool) (cs : List Char) : List Char :=
  ((cs.dropWhile kind).reverse.dropWhile kind).reverse

def strip (cs : List Char) : List Char := trim isSpace cs

end RequestBook.Text
