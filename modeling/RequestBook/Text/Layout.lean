/-!
# Laying out text

Joining, wrapping and indenting pieces of text, where an empty piece stands for
an absent one. Every printed document is put together from these few functions.
-/

namespace RequestBook.Text

/-- The pieces with `sep` between neighbours. -/
def separated (sep : String) : List String → String
  | [] => ""
  | [s] => s
  | s :: rest => s ++ sep ++ separated sep rest

/-- As `separated`, over the pieces that are not empty. -/
def joined (sep : String) (parts : List String) : String :=
  separated sep (parts.filter (· ≠ ""))

/-- Brackets around a piece that is present; nothing around an absent one. -/
def wrapped (before s after : String) : String :=
  if s = "" then "" else before ++ s ++ after

def indentChars : List Char → List Char
  | [] => []
  | c :: cs => if c = '\n' then '\n' :: ' ' :: ' ' :: indentChars cs else c :: indentChars cs

/-- Two more blanks at the start of every line, the first included. -/
def indented (s : String) : String :=
  wrapped "  " (String.ofList (indentChars s.toList)) ""

/-- The pieces one per line, indented, between braces on lines of their own. -/
def block (parts : List String) : String :=
  if parts.isEmpty then "" else "\x7b\n" ++ indented (joined "\n" parts) ++ "\n\x7d"

def contains (part s : List Char) : Bool :=
  part.isPrefixOf s || match s with
    | [] => false
    | _ :: rest => contains part rest

/-- Every occurrence of `old` replaced by `new`, from the left, none overlapping. -/
def replaceAll (old new : List Char) : List Char → List Char :=
  go 0
where
  /-- `skip` characters belong to an occurrence already replaced. -/
  go : Nat → List Char → List Char
    | _, [] => []
    | skip + 1, _ :: cs => go skip cs
    | 0, c :: cs =>
      if old.isPrefixOf (c :: cs) && !old.isEmpty then new ++ go (old.length - 1) cs
      else c :: go 0 cs

/-- Lower-case or upper-case hexadecimal digits of a number, padded with zeros to `width`. -/
def hexDigits (upper : Bool) (width n : Nat) : String :=
  let digits := (Nat.toDigits 16 n).map fun c => if upper then c.toUpper else c
  String.ofList (List.replicate (width - digits.length) '0' ++ digits)

/-- Blanks before `s` so that it ends at column `width`. -/
def rightAligned (width : Nat) (s : String) : String :=
  String.ofList (List.replicate (width - s.length) ' ') ++ s

end RequestBook.Text
