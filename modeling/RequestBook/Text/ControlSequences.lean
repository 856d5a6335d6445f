import RequestBook.Text.Layout

/-!
# Control sequences

A terminal takes an escape character and a bracket, with what follows up to a letter, as a
command. What is printed may go to a reader that is no terminal, so it holds no commands, and
its lines end in one character each.
-/

namespace RequestBook.Text

/-- Whether a character may stand between the bracket of a control sequence and its letter. -/
def isParameter (c : Char) : Bool := c.isDigit || c == ';' || c == '?'

/-- The number of characters of the control sequence that a text starts with. -/
def controlSequence? : List Char → Option Nat
  | '\x1b' :: '[' :: cs =>
    let parameters := cs.takeWhile isParameter
    match cs.drop parameters.length with
    | c :: _ => if c.isAlpha then some (parameters.length + 3) else none
    | [] => none
  | _ => none

/-- The text without its control sequences; the first `skip` characters belong to one. -/
def withoutControls : (skip : Nat) → List Char → List Char
  | _, [] => []
  | skip + 1, _ :: cs => withoutControls skip cs
  | 0, c :: cs =>
    match controlSequence? (c :: cs) with
    | some size => withoutControls (size - 1) cs
    | none => c :: withoutControls 0 cs

/-- A text as it is printed. -/
def printed (s : String) : String :=
  String.ofList (replaceAll ['\r', '\n'] ['\n'] (withoutControls 0 s.toList))

end RequestBook.Text
