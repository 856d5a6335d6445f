import RequestBook.Text.Layout

/-!
# Resemblance

How much two texts have in common: the size of the longest block that occurs in both, and
of such blocks to its left and to its right in turn. Names that resemble an unknown one are
offered in its place.
-/

namespace RequestBook.Text

/-- How far two texts agree from their starts on. -/
def agreement : List Char → List Char → Nat
  | a :: as, b :: bs => if a = b then agreement as bs + 1 else 0
  | _, _ => 0

/-- A block that occurs in two texts. -/
structure Block where
  first : Nat
  second : Nat
  size : Nat

/-- The longest block that two texts share: of several the first in the first text, and there
the first in the second. -/
def longestBlock (a b : List Char) : Block :=
  let starts := (List.range a.length).flatMap fun i => (List.range b.length).map fun j => (i, j)
  starts.foldl
    (fun best (i, j) =>
      let size := agreement (a.drop i) (b.drop j)
      if best.size < size then ⟨i, j, size⟩ else best)
    ⟨0, 0, 0⟩

/-- How many characters of two texts lie in blocks that they share. -/
def shared (a b : List Char) : Nat :=
  match longestBlock a b with
  | ⟨i, j, size⟩ =>
    if 0 < size ∧ i + size ≤ a.length then
      size + shared (a.take i) (b.take j) + shared (a.drop (i + size)) (b.drop (j + size))
    else 0
termination_by a.length
decreasing_by
  all_goals simp only [List.length_take, List.length_drop]; omega

/-- A name beside its likeness to another: the shared characters and those of both together. -/
structure Likeness where
  name : String
  shared : Nat
  total : Nat

namespace Likeness

def of (word name : String) : Likeness :=
  ⟨name, Text.shared name.toList word.toList, name.length + word.length⟩

/-- At least three in ten characters of both together have a partner. -/
def isClose (l : Likeness) : Bool := 3 * l.total ≤ 10 * l.shared

/-- Whether one name is at least as alike as another; the later name wins a tie. -/
def notBelow (k l : Likeness) : Bool :=
  l.shared * k.total < k.shared * l.total ||
    (k.shared * l.total == l.shared * k.total && l.name ≤ k.name)

end Likeness

/-- The most names that are offered for an unknown one. -/
def closeNameLimit : Nat := 3

/-- The names that resemble a word most, in their own order. -/
def closeNames (word : String) (names : List String) : List String :=
  let close := (names.map (Likeness.of word)).filter Likeness.isClose
  let best := (close.mergeSort Likeness.notBelow).take closeNameLimit
  (best.map (·.name)).mergeSort (· ≤ ·)

end RequestBook.Text
