/-!
# Korean syllables

A Korean syllable is a leading consonant, a vowel and at most one trailing consonant. The
syllables are numbered by the places of the three in their rows; no trailing consonant is the
first place of its row.
-/

namespace RequestBook.Text

def firstSyllable : Nat := 0xac00

def firstLeading : Nat := 0x1100

def firstVowel : Nat := 0x1161

/-- The place for no trailing consonant. -/
def noTrailing : Nat := 0x11a7

/-- The short names of the leading consonants; the one that is silent has none. -/
def leadingNames : List String :=
  ["G", "GG", "N", "D", "DD", "R", "M", "B", "BB", "S", "SS", "", "J", "JJ", "C", "K", "T", "P",
    "H"]

/-- The short names of the vowels. -/
def vowelNames : List String :=
  ["A", "AE", "YA", "YAE", "EO", "E", "YEO", "YE", "O", "WA", "WAE", "OE", "YO", "U", "WEO", "WE",
    "WI", "YU", "EU", "YI", "I"]

/-- The short names of the trailing consonants, in front of them none for no consonant. -/
def trailingNames : List String :=
  ["", "G", "GG", "GS", "N", "NJ", "NH", "D", "L", "LG", "LM", "LB", "LS", "LT", "LP", "LH", "M",
    "B", "BS", "S", "SS", "NG", "J", "C", "K", "T", "P", "H"]

/-- The syllable of three places. -/
def syllable (leading vowel trailing : Nat) : Char :=
  Char.ofNat
    (firstSyllable + (leading * vowelNames.length + vowel) * trailingNames.length + trailing)

/-- The syllable that a consonant and a vowel compose, or a syllable and a trailing consonant. -/
def syllable? (a b : Char) : Option Char :=
  let leading := a.toNat - firstLeading
  let vowel := b.toNat - firstVowel
  let number := a.toNat - firstSyllable
  let trailing := b.toNat - noTrailing
  if firstLeading ≤ a.toNat ∧ leading < leadingNames.length ∧ firstVowel ≤ b.toNat ∧
      vowel < vowelNames.length then
    some (syllable leading vowel 0)
  else if firstSyllable ≤ a.toNat ∧
      number < leadingNames.length * vowelNames.length * trailingNames.length ∧
      number % trailingNames.length = 0 ∧ noTrailing < b.toNat ∧
      trailing < trailingNames.length then
    some (Char.ofNat (a.toNat + trailing))
  else none

/-- The place of the longest name in a row that a text starts with, and what follows it. -/
def longestName? (row : List String) (cs : List Char) : Option (Nat × List Char) :=
  let fits := row.zipIdx.filter fun (name, _) => name.toList.isPrefixOf cs
  let longest := fits.foldl (fun best (name, place) =>
    match best with
    | some (size, _) => if size < name.length then some (name.length, place) else best
    | none => some (name.length, place)) none
  longest.map fun (size, place) => (place, cs.drop size)

/-- The syllable that the short names of its letters write. -/
def syllableNamed? (cs : List Char) : Option Char := do
  let (leading, cs) ← longestName? leadingNames cs
  let (vowel, cs) ← longestName? vowelNames cs
  let (trailing, cs) ← longestName? trailingNames cs
  guard cs.isEmpty
  return syllable leading vowel trailing

end RequestBook.Text
