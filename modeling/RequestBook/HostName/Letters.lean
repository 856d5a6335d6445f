import RequestBook.HostName.Newer
import RequestBook.Text.Case
import RequestBook.Text.Identifiers

/-!
# Letters of host names

The characters that a label of a host name admits: those of identifiers that are in lower case
and have no other form that means the same, and a few beside them. Some are admitted only
between certain neighbours.
-/

namespace RequestBook.HostName

open Text (Ranges)

/-- Characters of identifiers that a host name writes in another way or not at all. A range may
take in characters that are capitals or that no identifier has. -/
def otherForms : Ranges :=
  [(0x5f, 0x5f), (0xaa, 0xba), (0x130, 0x130), (0x133, 0x133), (0x140, 0x140), (0x149, 0x149),
    (0x17f, 0x17f), (0x1c6, 0x1cc), (0x1f3, 0x1f3), (0x2b0, 0x2b8), (0x2e0, 0x2e4), (0x340, 0x341),
    (0x343, 0x345), (0x34f, 0x34f), (0x374, 0x374), (0x387, 0x387), (0x3d0, 0x3d6), (0x3f0, 0x3f2),
    (0x3f5, 0x3f5), (0x587, 0x587), (0x640, 0x640), (0x660, 0x669), (0x675, 0x678), (0x6f0, 0x6f9),
    (0x7fa, 0x7fa), (0x958, 0x95f), (0x9dc, 0x9df), (0xa33, 0xa33), (0xa36, 0xa36), (0xa59, 0xa5b),
    (0xa5e, 0xa5e), (0xb5c, 0xb5d), (0xe33, 0xe33), (0xeb3, 0xeb3), (0xedc, 0xedd), (0xf43, 0xf43),
    (0xf4d, 0xf4d), (0xf52, 0xf52), (0xf57, 0xf57), (0xf5c, 0xf5c), (0xf69, 0xf69), (0xf73, 0xf73),
    (0xf75, 0xf79), (0xf81, 0xf81), (0xf93, 0xf93), (0xf9d, 0xf9d), (0xfa2, 0xfa2), (0xfa7, 0xfa7),
    (0xfac, 0xfac), (0xfb9, 0xfb9), (0x10fc, 0x10fc), (0x1100, 0x11ff), (0x1369, 0x1371),
    (0x13f8, 0x13fd), (0x16ee, 0x16f0), (0x17b4, 0x17b5), (0x180b, 0x180f), (0x19da, 0x19da),
    (0x1c80, 0x1c88), (0x1d2c, 0x1d2e), (0x1d30, 0x1d3a), (0x1d3c, 0x1d4d), (0x1d4f, 0x1d6a),
    (0x1d78, 0x1d78), (0x1d9b, 0x1dbf), (0x1e9a, 0x1e9b), (0x1f71, 0x1f71), (0x1f73, 0x1f73),
    (0x1f75, 0x1f75), (0x1f77, 0x1f77), (0x1f79, 0x1f79), (0x1f7b, 0x1f7b), (0x1f7d, 0x1fa7),
    (0x1fb2, 0x1fb4), (0x1fb7, 0x1fc4), (0x1fc7, 0x1fc7), (0x1fd3, 0x1fd3), (0x1fe3, 0x1fe3),
    (0x1ff2, 0x1ff4), (0x1ff7, 0x2149), (0x2170, 0x2182), (0x2185, 0x2188), (0x2c7c, 0x2c7d),
    (0x2d6f, 0x2d6f), (0x3021, 0x3029), (0x302e, 0x303b), (0x309f, 0x309f), (0x30ff, 0x30ff),
    (0x3131, 0x318e), (0xa69c, 0xa69d), (0xa6e6, 0xa6ef), (0xa770, 0xa770), (0xa7f2, 0xa7f4),
    (0xa7f8, 0xa7f9), (0xa960, 0xa97c), (0xab5c, 0xab5f), (0xab69, 0xabbf), (0xd7b0, 0xfa0d),
    (0xfa10, 0xfa10), (0xfa12, 0xfa12), (0xfa15, 0xfa1e), (0xfa20, 0xfa20), (0xfa22, 0xfa22),
    (0xfa25, 0xfa26), (0xfa2a, 0xfb1d), (0xfb1f, 0xfe0f), (0xfe33, 0xfe71), (0xfe77, 0xffdc),
    (0x10140, 0x10174), (0x10341, 0x10341), (0x1034a, 0x1034a), (0x103d1, 0x103d5),
    (0x10781, 0x107ba), (0x12400, 0x1246e), (0x1d165, 0x1d7ff), (0x1ee00, 0x1fbf9),
    (0x2f800, 0x2fa1d), (0xe0100, 0xe01ef)]

/-- Capitals that are letters of host names, since they are older than their small forms. -/
def admittedCapitals : Ranges := [(0x13a0, 0x13f5)]

/-- The hyphen and the marks and signs that are admitted although no identifier has them. -/
def admittedSigns : Ranges :=
  [(0x2d, 0x2d), (0x6fd, 0x6fe), (0xf0b, 0xf0b), (0x2e2f, 0x2e2f)]

def isLetter (c : Char) : Bool :=
  admittedSigns.has c || admittedCapitals.has c || newerLetters.has c ||
    (Text.isIdentifierPart c && Text.small c == c && !otherForms.has c)

/-! ## Neighbours -/

/-- The letters that join the letter behind them. -/
def joiningNext : Ranges :=
  [(0x620, 0x620), (0x626, 0x626), (0x628, 0x628), (0x62a, 0x62e), (0x633, 0x63f), (0x641, 0x647),
    (0x649, 0x64a), (0x66e, 0x66f), (0x678, 0x687), (0x69a, 0x6bf), (0x6c1, 0x6c2), (0x6cc, 0x6cc),
    (0x6ce, 0x6ce), (0x6d0, 0x6d1), (0x6fa, 0x6fc), (0x6ff, 0x6ff), (0x712, 0x714), (0x71a, 0x71d),
    (0x71f, 0x727), (0x729, 0x729), (0x72b, 0x72b), (0x72d, 0x72e), (0x74e, 0x758), (0x75c, 0x76a),
    (0x76d, 0x770), (0x772, 0x772), (0x775, 0x777), (0x77a, 0x77f), (0x7ca, 0x7ea), (0x841, 0x845),
    (0x848, 0x848), (0x84a, 0x853), (0x855, 0x855), (0x860, 0x860), (0x862, 0x865), (0x868, 0x868),
    (0x886, 0x886), (0x889, 0x88d), (0x88f, 0x88f), (0x8a0, 0x8a9), (0x8af, 0x8b0), (0x8b3, 0x8b8),
    (0x8ba, 0x8c8), (0x1807, 0x1807), (0x1820, 0x1878), (0x1887, 0x18a8), (0x18aa, 0x18aa),
    (0xa840, 0xa872), (0x10ac0, 0x10ac4), (0x10acd, 0x10acd), (0x10ad3, 0x10adc),
    (0x10ade, 0x10ae0), (0x10aeb, 0x10aee), (0x10b80, 0x10b80), (0x10b82, 0x10b82),
    (0x10b86, 0x10b88), (0x10b8a, 0x10b8b), (0x10b8d, 0x10b8d), (0x10b90, 0x10b90),
    (0x10bad, 0x10bae), (0x10d00, 0x10d21), (0x10d23, 0x10d23), (0x10ec3, 0x10ec4),
    (0x10ec6, 0x10ec7), (0x10f30, 0x10f32), (0x10f34, 0x10f44), (0x10f51, 0x10f53),
    (0x10f70, 0x10f73), (0x10f76, 0x10f81), (0x10fb0, 0x10fb0), (0x10fb2, 0x10fb3),
    (0x10fb8, 0x10fb8), (0x10fbb, 0x10fbc), (0x10fbe, 0x10fbf), (0x10fc1, 0x10fc1),
    (0x10fc4, 0x10fc4), (0x10fca, 0x10fcb), (0x1e900, 0x1e943)]

/-- The letters that join the letter in front of them. -/
def joiningPrevious : Ranges :=
  [(0x620, 0x620), (0x622, 0x63f), (0x641, 0x64a), (0x66e, 0x66f), (0x671, 0x673), (0x675, 0x6d3),
    (0x6d5, 0x6d5), (0x6ee, 0x6ef), (0x6fa, 0x6fc), (0x6ff, 0x6ff), (0x710, 0x710), (0x712, 0x72f),
    (0x74d, 0x77f), (0x7ca, 0x7ea), (0x840, 0x858), (0x860, 0x860), (0x862, 0x865), (0x867, 0x86a),
    (0x870, 0x882), (0x886, 0x886), (0x889, 0x88f), (0x8a0, 0x8ac), (0x8ae, 0x8c8),
    (0x1807, 0x1807), (0x1820, 0x1878), (0x1887, 0x18a8), (0x18aa, 0x18aa), (0xa840, 0xa871),
    (0x10ac0, 0x10ac5), (0x10ac7, 0x10ac7), (0x10ac9, 0x10aca), (0x10ace, 0x10ad6),
    (0x10ad8, 0x10ae1), (0x10ae4, 0x10ae4), (0x10aeb, 0x10aef), (0x10b80, 0x10b91),
    (0x10ba9, 0x10bae), (0x10d01, 0x10d23), (0x10ec2, 0x10ec4), (0x10ec6, 0x10ec7),
    (0x10f30, 0x10f44), (0x10f51, 0x10f54), (0x10f70, 0x10f81), (0x10fb0, 0x10fb0),
    (0x10fb2, 0x10fb6), (0x10fb8, 0x10fbf), (0x10fc1, 0x10fc4), (0x10fc9, 0x10fca),
    (0x1e900, 0x1e943)]

/-- The letters of the Greek script. -/
def greekLetters : Ranges :=
  [(0x370, 0x373), (0x375, 0x377), (0x37a, 0x37d), (0x37f, 0x37f), (0x384, 0x384), (0x386, 0x386),
    (0x388, 0x38a), (0x38c, 0x38c), (0x38e, 0x3a1), (0x3a3, 0x3e1), (0x3f0, 0x3ff),
    (0x1d26, 0x1d2a), (0x1d5d, 0x1d61), (0x1d66, 0x1d6a), (0x1dbf, 0x1dbf), (0x1f00, 0x1f15),
    (0x1f18, 0x1f1d), (0x1f20, 0x1f45), (0x1f48, 0x1f4d), (0x1f50, 0x1f57), (0x1f59, 0x1f59),
    (0x1f5b, 0x1f5b), (0x1f5d, 0x1f5d), (0x1f5f, 0x1f7d), (0x1f80, 0x1fb4), (0x1fb6, 0x1fc4),
    (0x1fc6, 0x1fd3), (0x1fd6, 0x1fdb), (0x1fdd, 0x1fef), (0x1ff2, 0x1ff4), (0x1ff6, 0x1ffe),
    (0x2126, 0x2126), (0xab65, 0xab65), (0x10140, 0x1018e), (0x101a0, 0x101a0), (0x1d200, 0x1d245)]

/-- The letters of the Hebrew script. -/
def hebrewLetters : Ranges :=
  [(0x591, 0x5c7), (0x5d0, 0x5ea), (0x5ef, 0x5f4), (0xfb1d, 0xfb36), (0xfb38, 0xfb3c),
    (0xfb3e, 0xfb3e), (0xfb40, 0xfb41), (0xfb43, 0xfb44), (0xfb46, 0xfb4f)]

/-- The characters of the Han script and of the two scripts that Japanese has beside it. -/
def eastAsianLetters : Ranges :=
  [(0x2e80, 0x2e99), (0x2e9b, 0x2ef3), (0x2f00, 0x2fd5), (0x3005, 0x3005), (0x3007, 0x3007),
    (0x3021, 0x3029), (0x3038, 0x303b), (0x3041, 0x3096), (0x309d, 0x309f), (0x30a1, 0x30fa),
    (0x30fd, 0x30ff), (0x31f0, 0x31ff), (0x32d0, 0x32fe), (0x3300, 0x3357), (0x3400, 0x4dbf),
    (0x4e00, 0x9fff), (0xf900, 0xfa6d), (0xfa70, 0xfad9), (0xff66, 0xff6f), (0xff71, 0xff9d),
    (0x16fe2, 0x16fe3), (0x16ff0, 0x16ff6), (0x1aff0, 0x1aff3), (0x1aff5, 0x1affb),
    (0x1affd, 0x1affe), (0x1b000, 0x1b122), (0x1b132, 0x1b132), (0x1b150, 0x1b152),
    (0x1b155, 0x1b155), (0x1b164, 0x1b167), (0x1f200, 0x1f200), (0x20000, 0x2a6df),
    (0x2a700, 0x2b81d), (0x2b820, 0x2cead), (0x2ceb0, 0x2ebe0), (0x2ebf0, 0x2ee5d),
    (0x2f800, 0x2fa1d), (0x30000, 0x3134a), (0x31350, 0x33479)]

def arabicDigits : Ranges := [(0x660, 0x669)]

def easternDigits : Ranges := [(0x6f0, 0x6f9)]

/-- The characters, marks aside, that letters join across. -/
def otherTransparent : Ranges :=
  [(0xad, 0xad), (0x488, 0x489), (0x61c, 0x61c), (0x70f, 0x70f), (0x897, 0x897), (0xece, 0xece),
    (0x1abe, 0x1abe), (0x1acf, 0x1add), (0x1ae0, 0x1aeb), (0x200b, 0x200b), (0x200e, 0x200f),
    (0x202a, 0x202e), (0x2060, 0x2064), (0x206a, 0x206f), (0x20dd, 0x20e0), (0x20e2, 0x20e4),
    (0xa670, 0xa672), (0xfeff, 0xfeff), (0xfff9, 0xfffb), (0x10d69, 0x10d6d), (0x10efa, 0x10eff),
    (0x11241, 0x11241), (0x113bb, 0x113c0), (0x113ce, 0x113ce), (0x113d0, 0x113d0),
    (0x113d2, 0x113d2), (0x113e1, 0x113e2), (0x11b60, 0x11b60), (0x11b62, 0x11b64),
    (0x11b66, 0x11b66), (0x11f00, 0x11f01), (0x11f36, 0x11f3a), (0x11f40, 0x11f40),
    (0x11f42, 0x11f42), (0x11f5a, 0x11f5a), (0x13430, 0x13440), (0x13447, 0x13455),
    (0x1611e, 0x16129), (0x1612d, 0x1612f), (0x1bca0, 0x1bca3), (0x1d173, 0x1d17a),
    (0x1e08f, 0x1e08f), (0x1e4ec, 0x1e4ef), (0x1e5ee, 0x1e5ef), (0x1e6e3, 0x1e6e3),
    (0x1e6e6, 0x1e6e6), (0x1e6ee, 0x1e6ef), (0x1e6f5, 0x1e6f5), (0x1e94b, 0x1e94b),
    (0xe0001, 0xe0001), (0xe0020, 0xe007f)]

/-- A mark that letters do not join across. -/
def joiningBarrier : Char := Char.ofNat 0x1171e

/-- Whether letters may join across a character: it is a mark or counts as one. -/
def isTransparent (c : Char) : Bool :=
  otherTransparent.has c || (Text.isNonspacing c && c != joiningBarrier)

/-- Whether the nearest letter of a text, whose first character is the nearest, is in a table. -/
def nearestIn (r : Ranges) (cs : List Char) : Bool :=
  ((cs.dropWhile isTransparent).head?.map r.has).getD false

/-- Whether the first character of a text is in a table. -/
def firstIn (r : Ranges) (cs : List Char) : Bool := (cs.head?.map r.has).getD false

/-- Why a text is no label. -/
inductive LabelFault where
  /-- It is empty, too long, not composed, starts with a mark, has hyphens where they are not
  free, or the text it should stand for cannot be read. -/
  | form
  /-- A character that no label has. -/
  | character
  /-- A character stands where it may not. -/
  | place
  /-- A joiner stands behind a character of which no class is known. -/
  | neighbour
  /-- The directions of the letters do not go together. -/
  | direction
  deriving DecidableEq, Repr

/-- The sign that keeps letters from joining. -/
def nonJoiner : Char := '\u200c'

/-- The sign that makes letters join. -/
def joiner : Char := '\u200d'

/-- What is wrong with a joiner between two texts, the one in front last character first. It
has to stand behind a mark that suppresses a vowel; the one that keeps letters from joining
may also stand where they would. -/
def joinerFault? (before : List Char) (c : Char) (after : List Char) : Option LabelFault :=
  let known := (before.head?.map fun d => Text.combiningClass d == Text.viramaClass).getD false
  if known then none
  else if (before.head?.map isUnnamed).getD false then some .neighbour
  else if c = nonJoiner && nearestIn joiningNext before && nearestIn joiningPrevious after then
    none
  else some .place

/-- Whether a sign may stand between two texts, of which the one in front is given last
character first; `none` for a character that may stand nowhere. -/
def isPlaced? (before : List Char) (c : Char) (after : List Char) : Option Bool :=
  match c with
  | '·' => some (before.head? = some 'l' && after.head? = some 'l')
  | '\u0375' => some (firstIn greekLetters after)
  | '\u05f3' | '\u05f4' => some (firstIn hebrewLetters before)
  | '\u30fb' => some ((before ++ after).any eastAsianLetters.has)
  | c =>
    if arabicDigits.has c then some !(before ++ after).any easternDigits.has
    else if easternDigits.has c then some !(before ++ after).any arabicDigits.has
    else none

/-- What is wrong with a character that stands between two texts, the one in front last
character first. -/
def placeFault? (before : List Char) (c : Char) (after : List Char) : Option LabelFault :=
  if isLetter c then none
  else if c = nonJoiner ∨ c = joiner then joinerFault? before c after
  else
    match isPlaced? before c after with
    | none => some .character
    | some placed => if placed then none else some .place

/-- What is wrong with the first character of a text that may not stand where it does; `before`
is in front of it. -/
def characterFault? (before : List Char) : List Char → Option LabelFault
  | [] => none
  | c :: cs => (placeFault? before c cs).or (characterFault? (c :: before) cs)

end RequestBook.HostName
