import RequestBook.Text.CharacterNames.Alphabets
import RequestBook.Text.CharacterNames.Ancient
import RequestBook.Text.CharacterNames.EastAsia
import RequestBook.Text.CharacterNames.Forms
import RequestBook.Text.CharacterNames.Hieroglyphs
import RequestBook.Text.CharacterNames.Notation
import RequestBook.Text.CharacterNames.Pictures
import RequestBook.Text.CharacterNames.Scripts
import RequestBook.Text.CharacterNames.Symbols
import RequestBook.Text.Escapes
import RequestBook.Text.Layout
import RequestBook.Text.Ranges
import RequestBook.Text.Syllables

/-!
# Names of characters

Characters can be called by the names that Unicode 14 gives them. Most names stand in rows, in
the order of the characters and with semicolons between them. A name there leaves out the words
that it starts with as the one in front does: a digit or small letter counts them, and a hyphen
ends a word as a space does. An empty name skips a character, and a number sign is the number
of the character.
An ideograph is called by its number and a Korean syllable by its letters. Control characters
have other names only.
-/

namespace RequestBook.Text

def nameRows : List (Nat × List String) :=
  alphabetNames ++ scriptNames ++ symbolNames ++ eastAsianNames ++ formNames ++ ancientNames ++
    hieroglyphNames ++ notationNames ++ pictureNames

/-- The words of a name, each with the space or hyphen behind it; `word` is in front of the
text, last character first. -/
def nameWords (word : List Char) : List Char → List (List Char)
  | [] => [word.reverse]
  | c :: cs =>
    if c = ' ' ∨ c = '-' then (c :: word).reverse :: nameWords [] cs else nameWords (c :: word) cs

/-- How many words the first character of a name leaves out. -/
def sharedWords? (c : Char) : Option Nat :=
  if c.isDigit then some (c.toNat - '0'.toNat)
  else if c.isLower then some (10 + (c.toNat - 'a'.toNat))
  else none

/-- The words of a name in a row whose last name had the words `before`. -/
def wordsAfter (before : List (List Char)) : List Char → List (List Char)
  | [] => before
  | c :: cs =>
    match sharedWords? c with
    | some n => before.take n ++ if cs.isEmpty then [] else nameWords [] cs
    | none => nameWords [] (c :: cs)

/-- Words as a name of the character with the number `code`. -/
def nameOf (code : Nat) (words : List (List Char)) : List Char :=
  words.flatten.flatMap fun c => if c = '#' then (hexDigits true 4 code).toList else [c]

/-- The character with a name among the names in a row from the number `code` on. -/
def findName (name : List Char) (code : Nat) (before : List (List Char)) :
    List String → Option Nat
  | [] => none
  | text :: texts =>
    let words := wordsAfter before text.toList
    if !text.isEmpty && nameOf code words == name then some code
    else findName name (code + 1) words texts

/-- Other names of characters. -/
def otherNames : List (String × Nat) :=
  [("NUL", 0x0), ("NULL", 0x0), ("SOH", 0x1), ("START OF HEADING", 0x1), ("START OF TEXT", 0x2),
    ("STX", 0x2), ("END OF TEXT", 0x3), ("ETX", 0x3), ("END OF TRANSMISSION", 0x4), ("EOT", 0x4),
    ("ENQ", 0x5), ("ENQUIRY", 0x5), ("ACK", 0x6), ("ACKNOWLEDGE", 0x6), ("ALERT", 0x7),
    ("BEL", 0x7), ("BACKSPACE", 0x8), ("BS", 0x8), ("CHARACTER TABULATION", 0x9),
    ("HORIZONTAL TABULATION", 0x9), ("HT", 0x9), ("TAB", 0x9), ("END OF LINE", 0xa), ("EOL", 0xa),
    ("LF", 0xa), ("LINE FEED", 0xa), ("NEW LINE", 0xa), ("NL", 0xa), ("LINE TABULATION", 0xb),
    ("VERTICAL TABULATION", 0xb), ("VT", 0xb), ("FF", 0xc), ("FORM FEED", 0xc),
    ("CARRIAGE RETURN", 0xd), ("CR", 0xd), ("LOCKING-SHIFT ONE", 0xe), ("SHIFT OUT", 0xe),
    ("SO", 0xe), ("LOCKING-SHIFT ZERO", 0xf), ("SHIFT IN", 0xf), ("SI", 0xf),
    ("DATA LINK ESCAPE", 0x10), ("DLE", 0x10), ("DC1", 0x11), ("DEVICE CONTROL ONE", 0x11),
    ("DC2", 0x12), ("DEVICE CONTROL TWO", 0x12), ("DC3", 0x13), ("DEVICE CONTROL THREE", 0x13),
    ("DC4", 0x14), ("DEVICE CONTROL FOUR", 0x14), ("NAK", 0x15), ("NEGATIVE ACKNOWLEDGE", 0x15),
    ("SYN", 0x16), ("SYNCHRONOUS IDLE", 0x16), ("END OF TRANSMISSION BLOCK", 0x17), ("ETB", 0x17),
    ("CAN", 0x18), ("CANCEL", 0x18), ("END OF MEDIUM", 0x19), ("EOM", 0x19), ("SUB", 0x1a),
    ("SUBSTITUTE", 0x1a), ("ESC", 0x1b), ("ESCAPE", 0x1b), ("FILE SEPARATOR", 0x1c), ("FS", 0x1c),
    ("INFORMATION SEPARATOR FOUR", 0x1c), ("GROUP SEPARATOR", 0x1d), ("GS", 0x1d),
    ("INFORMATION SEPARATOR THREE", 0x1d), ("INFORMATION SEPARATOR TWO", 0x1e),
    ("RECORD SEPARATOR", 0x1e), ("RS", 0x1e), ("INFORMATION SEPARATOR ONE", 0x1f),
    ("UNIT SEPARATOR", 0x1f), ("US", 0x1f), ("SP", 0x20), ("DEL", 0x7f), ("DELETE", 0x7f),
    ("PAD", 0x80), ("PADDING CHARACTER", 0x80), ("HIGH OCTET PRESET", 0x81), ("HOP", 0x81),
    ("BPH", 0x82), ("BREAK PERMITTED HERE", 0x82), ("NBH", 0x83), ("NO BREAK HERE", 0x83),
    ("IND", 0x84), ("INDEX", 0x84), ("NEL", 0x85), ("NEXT LINE", 0x85), ("SSA", 0x86),
    ("START OF SELECTED AREA", 0x86), ("END OF SELECTED AREA", 0x87), ("ESA", 0x87),
    ("CHARACTER TABULATION SET", 0x88), ("HORIZONTAL TABULATION SET", 0x88), ("HTS", 0x88),
    ("CHARACTER TABULATION WITH JUSTIFICATION", 0x89),
    ("HORIZONTAL TABULATION WITH JUSTIFICATION", 0x89), ("HTJ", 0x89),
    ("LINE TABULATION SET", 0x8a), ("VERTICAL TABULATION SET", 0x8a), ("VTS", 0x8a),
    ("PARTIAL LINE DOWN", 0x8b), ("PARTIAL LINE FORWARD", 0x8b), ("PLD", 0x8b),
    ("PARTIAL LINE BACKWARD", 0x8c), ("PARTIAL LINE UP", 0x8c), ("PLU", 0x8c),
    ("REVERSE INDEX", 0x8d), ("REVERSE LINE FEED", 0x8d), ("RI", 0x8d), ("SINGLE SHIFT TWO", 0x8e),
    ("SINGLE-SHIFT-2", 0x8e), ("SS2", 0x8e), ("SINGLE SHIFT THREE", 0x8f), ("SINGLE-SHIFT-3", 0x8f),
    ("SS3", 0x8f), ("DCS", 0x90), ("DEVICE CONTROL STRING", 0x90), ("PRIVATE USE ONE", 0x91),
    ("PRIVATE USE-1", 0x91), ("PU1", 0x91), ("PRIVATE USE TWO", 0x92), ("PRIVATE USE-2", 0x92),
    ("PU2", 0x92), ("SET TRANSMIT STATE", 0x93), ("STS", 0x93), ("CANCEL CHARACTER", 0x94),
    ("CCH", 0x94), ("MESSAGE WAITING", 0x95), ("MW", 0x95), ("SPA", 0x96),
    ("START OF GUARDED AREA", 0x96), ("START OF PROTECTED AREA", 0x96),
    ("END OF GUARDED AREA", 0x97), ("END OF PROTECTED AREA", 0x97), ("EPA", 0x97), ("SOS", 0x98),
    ("START OF STRING", 0x98), ("SGC", 0x99), ("SINGLE GRAPHIC CHARACTER INTRODUCER", 0x99),
    ("SCI", 0x9a), ("SINGLE CHARACTER INTRODUCER", 0x9a), ("CONTROL SEQUENCE INTRODUCER", 0x9b),
    ("CSI", 0x9b), ("ST", 0x9c), ("STRING TERMINATOR", 0x9c), ("OPERATING SYSTEM COMMAND", 0x9d),
    ("OSC", 0x9d), ("PM", 0x9e), ("PRIVACY MESSAGE", 0x9e), ("APC", 0x9f),
    ("APPLICATION PROGRAM COMMAND", 0x9f), ("NBSP", 0xa0), ("SHY", 0xad),
    ("LATIN CAPITAL LETTER GHA", 0x1a2), ("LATIN SMALL LETTER GHA", 0x1a3), ("CGJ", 0x34f),
    ("ALM", 0x61c), ("SYRIAC SUBLINEAR COLON SKEWED LEFT", 0x709), ("KANNADA LETTER LLLA", 0xcde),
    ("LAO LETTER FO FON", 0xe9d), ("LAO LETTER FO FAY", 0xe9f), ("LAO LETTER RO", 0xea3),
    ("LAO LETTER LO", 0xea5), ("TIBETAN MARK BKA- SHOG GI MGO RGYAN", 0xfd0),
    ("HANGUL JONGSEONG YESIEUNG-KIYEOK", 0x11ec), ("HANGUL JONGSEONG YESIEUNG-SSANGKIYEOK", 0x11ed),
    ("HANGUL JONGSEONG SSANGYESIEUNG", 0x11ee), ("HANGUL JONGSEONG YESIEUNG-KHIEUKH", 0x11ef),
    ("FVS1", 0x180b), ("FVS2", 0x180c), ("FVS3", 0x180d), ("MVS", 0x180e), ("FVS4", 0x180f),
    ("ZWSP", 0x200b), ("ZWNJ", 0x200c), ("ZWJ", 0x200d), ("LRM", 0x200e), ("RLM", 0x200f),
    ("LRE", 0x202a), ("RLE", 0x202b), ("PDF", 0x202c), ("LRO", 0x202d), ("RLO", 0x202e),
    ("NNBSP", 0x202f), ("MMSP", 0x205f), ("WJ", 0x2060), ("LRI", 0x2066), ("RLI", 0x2067),
    ("FSI", 0x2068), ("PDI", 0x2069), ("WEIERSTRASS ELLIPTIC FUNCTION", 0x2118),
    ("MICR ON US SYMBOL", 0x2448), ("MICR DASH SYMBOL", 0x2449),
    ("LEFTWARDS TRIANGLE-HEADED ARROW WITH DOUBLE VERTICAL STROKE", 0x2b7a),
    ("RIGHTWARDS TRIANGLE-HEADED ARROW WITH DOUBLE VERTICAL STROKE", 0x2b7c),
    ("YI SYLLABLE ITERATION MARK", 0xa015), ("MYANMAR LETTER KHAMTI LLA", 0xaa6e),
    ("PRESENTATION FORM FOR VERTICAL RIGHT WHITE LENTICULAR BRACKET", 0xfe18), ("BOM", 0xfeff),
    ("BYTE ORDER MARK", 0xfeff), ("ZWNBSP", 0xfeff), ("CUNEIFORM SIGN NU11 TENU", 0x122d4),
    ("CUNEIFORM SIGN NU11 OVER NU11 BUR OVER BUR", 0x122d5),
    ("MEDEFAIDRIN CAPITAL LETTER H", 0x16e56), ("MEDEFAIDRIN CAPITAL LETTER NG", 0x16e57),
    ("MEDEFAIDRIN SMALL LETTER H", 0x16e76), ("MEDEFAIDRIN SMALL LETTER NG", 0x16e77),
    ("HENTAIGANA LETTER E-1", 0x1b001),
    ("BYZANTINE MUSICAL SYMBOL FTHORA SKLIRON CHROMA VASIS", 0x1d0c5)]

/-- What the short name of a selector starts with; its number follows. -/
def selectorName : String := "VS"

def selectorCount : Nat := 256

/-- The number of the character that selects a variant; only a few of them stand in front. -/
def selectorCode (n : Nat) : Nat := if n < 16 then 0xfe00 + n else 0xe0100 + (n - 16)

/-- The selector that a short name calls. -/
def selectorNamed? (name : String) : Option Nat :=
  ((List.range selectorCount).find? fun n => name = selectorName ++ toString (n + 1)).map
    selectorCode

def ideographs : Ranges :=
  [(0x3400, 0x4dbf), (0x4e00, 0x9fff), (0x20000, 0x2a6df), (0x2a700, 0x2b738), (0x2b740, 0x2b81d),
    (0x2b820, 0x2cea1), (0x2ceb0, 0x2ebe0), (0x30000, 0x3134a)]

/-- What the name of every ideograph starts with; its number in four or five hexadecimal digits
with capital letters follows. -/
def ideographName : String := "CJK UNIFIED IDEOGRAPH-"

/-- The ideograph whose number stands in a text. -/
def ideographNumbered? (digits : List Char) : Option Char := do
  guard ((digits.length = 4 || digits.length = 5) && !digits.any Char.isLower)
  let c := Char.ofNat ((← digits.mapM hexValue).foldl (fun n d => 16 * n + d) 0)
  guard (ideographs.has c)
  return c

/-- What the name of every Korean syllable starts with. -/
def syllableName : String := "HANGUL SYLLABLE "

/-- The character that a name calls. Case matters only in what ideographs and syllables are
called by. -/
def characterNamed? (name : String) : Option Char :=
  let cs := name.toList
  if syllableName.toList.isPrefixOf cs then syllableNamed? (cs.drop syllableName.length)
  else if ideographName.toList.isPrefixOf cs then
    ideographNumbered? (cs.drop ideographName.length)
  else
    let capitals := name.map Char.toUpper
    let inRow : Nat × List String → Option Nat := fun (first, lines) =>
      findName capitals.toList first [] (lines.flatMap (·.splitOn ";"))
    let code := ((otherNames.lookup capitals).or (selectorNamed? capitals)).or
      (nameRows.findSome? inRow)
    code.map Char.ofNat

end RequestBook.Text
