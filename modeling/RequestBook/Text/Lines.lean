import RequestBook.Text.Layout

/-!
# Lines of a text

Three notions of a line break meet here. A document ends its lines with LF, CR or
CR LF; a file read as text has all three turned into LF; and a position is counted in
lines that end at any of the Unicode line boundaries.
-/

namespace RequestBook.Text

/-- Every CR LF and every lone CR turned into LF. -/
def normalizeBreaks : List Char → List Char
  | [] => []
  | '\r' :: '\n' :: cs => '\n' :: normalizeBreaks cs
  | c :: cs => (if c = '\r' then '\n' else c) :: normalizeBreaks cs

/-- Every line break replaced by a blank: CR LF first, then what is left of CR and of LF. -/
def onOneLine (cs : List Char) : List Char :=
  replaceAll ['\n'] [' '] (replaceAll ['\r'] [' '] (replaceAll ['\r', '\n'] [' '] cs))

/-- The lines of a document, broken at LF, CR and CR LF. -/
def documentLines : List Char → List (List Char)
  | [] => [[]]
  | '\r' :: '\n' :: cs => [] :: documentLines cs
  | c :: cs =>
    if c = '\r' ∨ c = '\n' then [] :: documentLines cs
    else match documentLines cs with
      | [] => [[c]]
      | line :: rest => (c :: line) :: rest

/-- The characters that end a line in Unicode text. -/
def isLineBoundary (c : Char) : Bool :=
  ('\n' ≤ c && c ≤ '\r') || ('\x1c' ≤ c && c ≤ '\x1e') ||
    c == '\u0085' || c == '\u2028' || c == '\u2029'

/-- The lines of a text broken at every Unicode boundary; a boundary at the very end
opens no further line. -/
def textLines : List Char → List (List Char)
  | [] => []
  | '\r' :: '\n' :: cs => [] :: textLines cs
  | c :: cs =>
    if isLineBoundary c then [] :: textLines cs
    else match textLines cs with
      | [] => [[c]]
      | line :: rest => (c :: line) :: rest

end RequestBook.Text
