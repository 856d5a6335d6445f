/-!
# Decimal digits of binary fractions

A finite double is `m * 2 ^ q` for a natural number `m` and an integer `q`. The fewest decimal
digits that still read back as the same double are found here in exact arithmetic.
-/

namespace RequestBook.Decimal

/-- The magnitude `m * 2 ^ q` of a finite double; `narrow` holds where the doubles below it
lie twice as close as those above. -/
structure Binary where
  m : Nat
  q : Int
  narrow : Bool
  deriving DecidableEq, Repr

/-- Decimal digits with the exponent of ten that belongs to the digit in front. -/
structure Digits where
  digits : List Char
  exponent : Int
  deriving DecidableEq, Repr

/-- What the fraction bits of a double are counted in. -/
def fractionUnit : Nat := Nat.pow 2 52

/-- The sign and magnitude of a double; `none` for infinities and what is no number. -/
def Binary.ofFloat? (x : Float) : Option (Bool × Binary) :=
  let bits : Nat := x.toBits.toNat
  let fraction := bits % fractionUnit
  let exponent := bits / fractionUnit % 2048
  let negative := bits / fractionUnit / 2048 = 1
  if exponent = 2047 then none
  else if exponent = 0 then some (negative, ⟨fraction, -1074, false⟩)
  else some
    (negative, ⟨fractionUnit + fraction, (exponent : Int) - 1075, fraction = 0 && exponent > 1⟩)

namespace Binary

/-- `(n, d)` with `a * 2 ^ q / 10 ^ k = n / d`. -/
def ratio (a : Nat) (q k : Int) : Nat × Nat :=
  (a * Nat.pow 2 q.toNat * Nat.pow 10 (-k).toNat, Nat.pow 2 (-q).toNat * Nat.pow 10 k.toNat)

/-- How many decimal digits stand before the point; zero or less for a magnitude below one. -/
def magnitude (b : Binary) : Int :=
  let shift := if b.q < 0 then 400 else 0
  let (n, d) := ratio b.m b.q (-shift)
  ((Nat.toDigits 10 (n / d)).length : Int) - shift

/-- Whether `c * 10 ^ k` reads back as `b`: it lies between the midpoints to the two
neighbours, which themselves read back only as the neighbour whose last bit is zero. -/
def readsBack (b : Binary) (c : Nat) (k : Int) : Bool :=
  let (low, unit) := ratio (4 * b.m - if b.narrow then 1 else 2) (b.q - 2) k
  let (high, _) := ratio (4 * b.m + 2) (b.q - 2) k
  if b.m % 2 = 0 then low ≤ c * unit && c * unit ≤ high
  else low < c * unit && c * unit < high

/-- The multiple of `10 ^ k` nearest to `b` that reads back as `b`. -/
def nearestOn (b : Binary) (k : Int) : Option Nat :=
  let (n, d) := ratio b.m b.q k
  let below := n / d
  let up := readsBack b (below + 1) k
  if readsBack b below k then
    let twice := 2 * (n % d)
    if up && (twice > d || (twice = d && below % 2 = 1)) then some (below + 1) else some below
  else if up then some (below + 1)
  else none

def trimZeros (ds : List Char) : List Char := (ds.reverse.dropWhile (· = '0')).reverse

/-- The digits of `c * 10 ^ k`, without zeros at the end. -/
def digitsOf (c : Nat) (k : Int) : Digits :=
  let ds := Nat.toDigits 10 c
  ⟨trimZeros ds, k + ds.length - 1⟩

/-- The fewest digits that read back; seventeen always do. -/
def shortest (b : Binary) : Digits :=
  let top := b.magnitude
  let found := (List.range 17).findSome? fun (n : Nat) =>
    let k := top - n - 1
    (b.nearestOn k).map fun c => digitsOf c k
  found.getD ⟨['0'], 0⟩

end Binary

/-- How digits become a number text. -/
structure Format where
  /-- Exponents from this one on are written in positional notation … -/
  positionalFrom : Int
  /-- … up to but not including this one. -/
  positionalBelow : Int
  /-- A whole number in positional notation ends in a point and a zero. -/
  pointZero : Bool

namespace Format

def exponentText (e : Int) : String :=
  let digits := toString e.natAbs
  "e" ++ (if e < 0 then "-" else "+") ++ (if digits.length < 2 then "0" else "") ++ digits

def zeros (n : Nat) : List Char := List.replicate n '0'

def write (f : Format) (d : Digits) : String :=
  let ds := d.digits
  if f.positionalFrom ≤ d.exponent ∧ d.exponent < f.positionalBelow then
    if d.exponent < 0 then
      "0." ++ String.ofList (zeros ((-d.exponent).toNat - 1) ++ ds)
    else
      let size := d.exponent.toNat + 1
      let whole := ds.take size ++ zeros (size - ds.length)
      let part := ds.drop size
      if part.isEmpty then String.ofList whole ++ (if f.pointZero then ".0" else "")
      else String.ofList (whole ++ '.' :: part)
  else
    let part := ds.drop 1
    String.ofList (ds.take 1) ++ (if part.isEmpty then "" else "." ++ String.ofList part) ++
      exponentText d.exponent

/-- The text of a double; zero has one digit. -/
def text (f : Format) (x : Float) : String :=
  match Binary.ofFloat? x with
  | none => if x.isNaN then "nan" else if x < 0 then "-inf" else "inf"
  | some (negative, b) =>
    (if negative then "-" else "") ++ f.write (if b.m = 0 then ⟨['0'], 0⟩ else b.shortest)

end Format

/-- The double nearest to `mantissa * 10 ^ exponent`. -/
def toFloat (mantissa : Nat) (exponent : Int) : Float :=
  let size : Int := (Nat.toDigits 10 mantissa).length + exponent
  if mantissa = 0 ∨ size < -400 then 0.0
  else if size > 400 then 1.0 / 0.0
  else Float.ofScientific mantissa (exponent < 0) exponent.natAbs

end RequestBook.Decimal
