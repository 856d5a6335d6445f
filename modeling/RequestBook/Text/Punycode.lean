import RequestBook.Text.Encoding

/-!
# Host names in ASCII

A label of a host name with other characters is written with its ASCII characters first and
the others as differences in base 36, after the mark `xn--`.
-/

namespace RequestBook.Text.Punycode

def digit (n : Nat) : Char :=
  if n < 26 then Char.ofNat ('a'.toNat + n) else Char.ofNat ('0'.toNat + (n - 26))

/-- The threshold of the digit at place `k`. -/
def threshold (bias k : Nat) : Nat := min 26 (max 1 (k - bias))

/-- The digits of a number of variable length; `k` is the place of the next digit. -/
def digits (bias : Nat) : (fuel k n : Nat) → List Char
  | 0, _, _ => []
  | fuel + 1, k, n =>
    let t := threshold bias k
    if n < t then [digit n]
    else digit (t + (n - t) % (36 - t)) :: digits bias fuel (k + 36) ((n - t) / (36 - t))

/-- A difference scaled down for the choice of the next bias. -/
def scaled : (fuel k delta : Nat) → Nat
  | 0, k, _ => k
  | fuel + 1, k, delta =>
    if delta > 455 then scaled fuel (k + 36) (delta / 35) else k + 36 * delta / (delta + 38)

def adapted (delta points : Nat) (first : Bool) : Nat :=
  let delta := if first then delta / 700 else delta / 2
  let delta := delta + delta / points
  scaled delta 0 delta

structure State where
  written : List Char
  next : Nat
  delta : Nat
  bias : Nat
  done : Nat

/-- Writes all occurrences of the code point `n`, the least that is not written yet. -/
def step (basic : Nat) (label : List Char) (s : State) (n : Nat) : State :=
  let s := { s with delta := s.delta + (n - s.next) * (s.done + 1), next := n }
  let s := label.foldl (fun s c =>
    if c.toNat < n then { s with delta := s.delta + 1 }
    else if c.toNat = n then
      { s with
        written := s.written ++ digits s.bias (s.delta + 1) 36 s.delta
        bias := adapted s.delta (s.done + 1) (s.done = basic)
        delta := 0
        done := s.done + 1 }
    else s) s
  { s with delta := s.delta + 1, next := n + 1 }

/-- The mark in front of a label that stands for one with other characters. -/
def mark : List Char := ['x', 'n', '-', '-']

/-- A label in ASCII. -/
def encodeLabel (label : List Char) : List Char :=
  let ascii := label.filter (·.toNat < 128)
  if ascii.length = label.length then label
  else
    let others := ((label.filter (·.toNat ≥ 128)).map Char.toNat).eraseDups.mergeSort
    let start := if ascii.isEmpty then [] else ascii ++ ['-']
    let s := others.foldl (step ascii.length label) ⟨start, 128, 0, 72, ascii.length⟩
    mark ++ s.written

/-! ## Reading -/

/-- The value of a small letter or digit. -/
def digitValue? (c : Char) : Option Nat :=
  if 'a' ≤ c ∧ c ≤ 'z' then some (c.toNat - 'a'.toNat)
  else if c.isDigit then some (26 + (c.toNat - '0'.toNat))
  else none

/-- The number of variable length in front of a text, and what follows it. -/
def number? (bias : Nat) : (k weight : Nat) → List Char → Option (Nat × List Char)
  | _, _, [] => none
  | k, weight, c :: cs => do
    let d ← digitValue? c
    let t := threshold bias k
    if d < t then return (d * weight, cs)
    else
      let (n, rest) ← number? bias (k + 36) (weight * (36 - t)) cs
      return (d * weight + n, rest)

/-- Puts characters into a label as the differences in a text tell. `code` is the one that went
in last, and `place` the first place where it may go in once more. -/
def insertFrom (first : Bool) :
    (fuel bias code place : Nat) → (label digits : List Char) → Option (List Char)
  | _, _, _, _, label, [] => some label
  | 0, _, _, _, _, _ => none
  | fuel + 1, bias, code, place, label, digits => do
    let (delta, rest) ← number? bias 36 1 digits
    let size := label.length + 1
    let code := code + (place + delta) / size
    let place := (place + delta) % size
    let c ← Encoding.char? true code
    insertFrom false fuel (adapted delta size first) code (place + 1)
      (label.take place ++ c :: label.drop place) rest

/-- The label that a text behind the mark stands for. -/
def decode? (cs : List Char) : Option (List Char) :=
  let digits := (cs.reverse.takeWhile (· ≠ '-')).reverse
  insertFrom true digits.length 72 128 0 (cs.take (cs.length - digits.length - 1)) digits

end RequestBook.Text.Punycode
