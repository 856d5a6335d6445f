/-!
# Ranges of characters

A property of characters is given by the ranges of code points that have it.
-/

namespace RequestBook.Text

/-- Ranges of code points, each from its first to its last one, in order. -/
abbrev Ranges := List (Nat × Nat)

/-- Whether a character lies in one of the ranges. -/
def Ranges.has (r : Ranges) (c : Char) : Bool :=
  r.any fun (first, last) => first ≤ c.toNat && c.toNat ≤ last

end RequestBook.Text
