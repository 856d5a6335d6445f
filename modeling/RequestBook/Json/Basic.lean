import RequestBook.Decimal.Shortest
import RequestBook.Entries

/-!
# JSON values

A server's answer, a schema dump and a collection are all JSON. Objects keep their members
in order with every name once; integers have any size and stay apart from doubles.
-/

namespace RequestBook

inductive Json where
  | null
  | bool (b : Bool)
  | int (n : Int)
  | float (x : Float)
  | str (s : String)
  | arr (items : List Json)
  | obj (members : List (String × Json))
  deriving Repr, Inhabited, BEq

namespace Json

/-- The member of that name, if the value is an object that has one. -/
def member? (name : String) : Json → Option Json
  | obj members => members.lookup name
  | _ => none

/-- As `member?`, with an absent member read as null. -/
def memberOrNull (name : String) (j : Json) : Json := (j.member? name).getD null

/-- The members of an object written with names that may repeat: a name keeps its first
place and its last value. -/
def dedupe (members : List (String × Json)) : List (String × Json) :=
  Entries.putAll (· == ·) members []

/-- Null, false, zeros and everything empty count as absent. -/
def truthy : Json → Bool
  | null => false
  | bool b => b
  | int n => n != 0
  | float x => x != 0
  | str s => s != ""
  | arr items => !items.isEmpty
  | obj members => !members.isEmpty

/-- A number, with a truth value read as one or zero: an exact integer or else a double. -/
def number? : Json → Option (Int ⊕ Float)
  | bool b => some (.inl (if b then 1 else 0))
  | int n => some (.inl n)
  | float x => some (.inr x)
  | _ => none

/-- Whether a double is that integer, compared without rounding. -/
def floatIsInt (x : Float) (n : Int) : Bool :=
  match Decimal.Binary.ofFloat? x with
  | none => false
  | some (negative, b) =>
    b.m * Nat.pow 2 b.q.toNat == n.natAbs * Nat.pow 2 (-b.q).toNat &&
      (b.m == 0 || negative == (n < 0))

/-- Whether a value is the double that is no number. -/
def isNaN : Json → Bool
  | float x => x.isNaN
  | _ => false

mutual

/-- Whether two values are equal: numbers by size, so that `1`, `1.0` and `true` agree,
objects by their members in any order. What is no number is equal to nothing, but it agrees
with itself as a part of two values. -/
def same : Json → Json → Bool
  | null, null => true
  | str a, str b => a == b
  | arr xs, arr ys => sameItems xs ys
  | obj xs, obj ys => xs.length == ys.length && sameMembers xs ys
  | a, b =>
    match a.number?, b.number? with
    | some (.inl m), some (.inl n) => m == n
    | some (.inr x), some (.inr y) => x == y
    | some (.inl n), some (.inr x) | some (.inr x), some (.inl n) => floatIsInt x n
    | _, _ => false

def sameItems : List Json → List Json → Bool
  | [], [] => true
  | a :: as, b :: bs => samePart a b && sameItems as bs
  | _, _ => false

def sameMembers : List (String × Json) → List (String × Json) → Bool
  | [], _ => true
  | (name, a) :: rest, ys =>
    (match ys.lookup name with
      | some b => samePart a b
      | none => false) && sameMembers rest ys

/-- Whether two parts of values agree, or two keys of entries. -/
def samePart (a b : Json) : Bool := (a.isNaN && b.isNaN) || same a b

end

end Json

end RequestBook
