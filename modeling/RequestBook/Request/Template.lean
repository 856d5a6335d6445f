import RequestBook.Json.Display
import RequestBook.Request.Literal
import RequestBook.Text.Blank
import RequestBook.Text.Identifiers
import RequestBook.Text.Lines
import RequestBook.Text.PlainLetters

/-!
# Templates

The text of a request is made by a template: text to copy, values to insert and choices
by a condition. A template is read once into a tree; inserting a value never reads it
again, so whatever a server sends stays text.
-/

namespace RequestBook

/-- What a template is given. -/
structure TemplateInput where
  operation : String
  name : Json
  hasArguments : Bool
  declarations : String
  call : String
  selection : String

/-- The name of a custom template in its directory. -/
def templateName : String := "operation.graphql.j2"

/-- What a tag may name: a member of the input, a constant, or nothing known. -/
inductive TemplateExpr where
  | variable (name : String)
  | literal (text : String)
  deriving DecidableEq, Repr

inductive TemplateNode where
  | text (text : String)
  | output (value : TemplateExpr)
  | choice (condition : TemplateExpr) (yes no : List TemplateNode)
  deriving Repr

abbrev Template := List TemplateNode

namespace TemplateInput

/-- The values that every template writes in one word. -/
def constant? : String → Option Json
  | "true" | "True" => some (.bool true)
  | "false" | "False" => some (.bool false)
  | "none" | "None" => some .null
  | _ => none

/-- The value of a name; `none` for a name that is not given. -/
def lookup (i : TemplateInput) : String → Option Json
  | "operation_type" => some (.str i.operation)
  | "name" => some i.name
  | "has_arguments" => some (.bool i.hasArguments)
  | "declarations" => some (.str i.declarations)
  | "call_arguments" => some (.str i.call)
  | "selection" => some (.str i.selection)
  | name => constant? name

/-- The name of the template itself. -/
def selfName : String := "self"

/-- Names that every template knows without being given them, and what they write. They stand
for tools that no tag can use, and hold in conditions. -/
def standing : List (String × String) :=
  [("range", "<class 'range'>"), ("dict", "<class 'dict'>"),
    ("lipsum", "<function generate_lorem_ipsum>"), ("cycler", "<class 'jinja2.utils.Cycler'>"),
    ("joiner", "<class 'jinja2.utils.Joiner'>"),
    ("namespace", "<class 'jinja2.utils.Namespace'>"),
    (selfName, "<TemplateReference '" ++ templateName ++ "'>")]

def value (i : TemplateInput) : TemplateExpr → Option Json
  | .variable name => (i.lookup name).or ((standing.lookup name).map Json.str)
  | .literal text => some (.str text)

/-- A name that is not given writes nothing. -/
def written (i : TemplateInput) (e : TemplateExpr) : String := ((i.value e).map Json.plain).getD ""

def holds (i : TemplateInput) (e : TemplateExpr) : Bool := ((i.value e).map Json.truthy).getD false

end TemplateInput

mutual

def TemplateNode.render (i : TemplateInput) : TemplateNode → String
  | .text s => s
  | .output e => i.written e
  | .choice condition yes no => if i.holds condition then renderAll i yes else renderAll i no

def TemplateNode.renderAll (i : TemplateInput) : List TemplateNode → String
  | [] => ""
  | n :: rest => n.render i ++ renderAll i rest

end

/-! ## Shared names

Names that are the same in plain letters share one value: that of the last of them to come up
in the text of the template.
-/

def TemplateExpr.names : TemplateExpr → List String
  | .variable name => if (TemplateInput.constant? name).isSome then [] else [name]
  | .literal _ => []

mutual

/-- The names of a node in the order of the text, each as often as it stands there. -/
def TemplateNode.names : TemplateNode → List String
  | .text _ => []
  | .output e => e.names
  | .choice condition yes no => condition.names ++ namesOfAll yes ++ namesOfAll no

def TemplateNode.namesOfAll : List TemplateNode → List String
  | [] => []
  | n :: rest => n.names ++ namesOfAll rest

end

/-- What a template itself writes once another name has taken its place. -/
def displaced : String := "missing"

/-- What a tag means among the names of a template, in the order in which they come up. The
template itself is there before all of them. -/
def TemplateExpr.among (names : List String) (e : TemplateExpr) : TemplateExpr :=
  match e.names with
  | [name] =>
    let shares := names.filter fun n =>
      n ≠ TemplateInput.selfName && Text.plainName n = Text.plainName name
    match shares.getLast? with
    | none => e
    | some last => if name = TemplateInput.selfName then .literal displaced else .variable last
  | _ => e

mutual

def TemplateNode.among (names : List String) : TemplateNode → TemplateNode
  | .text s => .text s
  | .output e => .output (e.among names)
  | .choice condition yes no =>
    .choice (condition.among names) (amongAll names yes) (amongAll names no)

def TemplateNode.amongAll (names : List String) : List TemplateNode → List TemplateNode
  | [] => []
  | n :: rest => n.among names :: amongAll names rest

end

namespace Template

def render (t : Template) (i : TemplateInput) : String := TemplateNode.renderAll i t

/-- The template that is used unless the user brings one. -/
def standard : Template :=
  [.output (.variable "operation_type"), .text " ", .output (.variable "name"),
    .choice (.variable "has_arguments")
      [.text "(", .output (.variable "declarations"), .text ")"] [],
    .text "\x7b\n\t", .output (.variable "name"),
    .choice (.variable "has_arguments")
      [.text "(", .output (.variable "call_arguments"), .text ")"] [],
    .choice (.variable "selection")
      [.text "\x7b\n", .output (.variable "selection"), .text "\t\x7d"] [],
    .text "\n\x7d"]

/-! ## Reading -/

/-- What stands inside a tag. -/
inductive Word where
  | name (text : String)
  | literal (text : String)
  deriving DecidableEq, Repr

inductive TagKind where
  | output | statement
  deriving DecidableEq, Repr

inductive Piece where
  | text (text : List Char)
  | tag (kind : TagKind) (words : List Word)
  deriving Repr

def TagKind.closer : TagKind → List Char
  | .output => ['}', '}']
  | .statement => ['%', '}']

/-- The tag whose closing mark the text goes on with: how many characters that takes. A minus
sign in front also takes the white space behind. -/
def closing? (closer cs : List Char) : Option Nat :=
  if closer.isPrefixOf cs then some closer.length
  else if ('-' :: closer).isPrefixOf cs then
    let size := closer.length + 1
    some (size + ((cs.drop size).takeWhile Text.isSpace).length)
  else if closer = ['%', '}'] ∧ ('+' :: closer).isPrefixOf cs then some (closer.length + 1)
  else none

/-- The text of a literal up to its closing quote, and the number of characters that takes;
`none` if it is not closed or no text. -/
def literalBody (quote : Char) : Nat → List Char → List Char → Option (List Char × Nat)
  | _, _, [] => none
  | size, seen, '\\' :: c :: cs => literalBody quote (size + 2) (c :: '\\' :: seen) cs
  | size, seen, c :: cs =>
    if c = quote then (Literal.text? seen.reverse).map fun text => (text, size + 1)
    else literalBody quote (size + 1) (c :: seen) cs

/-- Whether a name may go on with a character. -/
def isNamePart (c : Char) : Bool := Text.isIdentifierPart c && !Text.recentParts.has c

/-- The words of a tag and the number of characters up to its end; `none` if the tag holds
anything else or is not closed. -/
def tagBody (closer : List Char) : (skip size : Nat) → List Word → List Char →
    Option (List Word × Nat)
  | _, _, _, [] => none
  | skip + 1, size, words, _ :: cs => tagBody closer skip (size + 1) words cs
  | 0, size, words, c :: cs =>
    match closing? closer (c :: cs) with
    | some n => some (words.reverse, size + n)
    | none =>
      if Text.isSpace c then tagBody closer 0 (size + 1) words cs
      else if c = '\'' ∨ c = '"' then
        match literalBody c 1 [] cs with
        | some (text, n) =>
          tagBody closer (n - 1) (size + 1) (.literal (String.ofList text) :: words) cs
        | none => none
      else if Text.isIdentifierStart c then
        let rest := cs.takeWhile isNamePart
        tagBody closer rest.length (size + 1) (.name (String.ofList (c :: rest)) :: words) cs
      else none

/-- The number of characters of a comment after its opening mark. -/
def commentSize : Nat → List Char → Option Nat
  | _, [] => none
  | size, c :: cs =>
    match closing? ['#', '}'] (c :: cs) with
    | some n => some (size + n)
    | none => commentSize (size + 1) cs

def trimEnd (reversed : List Char) : List Char := reversed.dropWhile Text.isSpace

/-- Two characters that open a tag or a comment, and whether the white space in front goes. -/
def opening? (cs : List Char) : Option (Option TagKind × Bool × Nat) :=
  let kind := match cs with
    | '{' :: '{' :: _ => some (some TagKind.output)
    | '{' :: '%' :: _ => some (some TagKind.statement)
    | '{' :: '#' :: _ => some none
    | _ => none
  kind.map fun k =>
    match cs[2]? with
    | some '-' => (k, true, 3)
    | some '+' => (k, false, 3)
    | _ => (k, false, 2)

/-- The pieces of a template text; `seen` is the text since the last tag, last first. -/
def piecesFrom : (skip : Nat) → (seen : List Char) → List Char → Option (List Piece)
  | _, seen, [] => some [.text seen.reverse]
  | skip + 1, seen, _ :: cs => piecesFrom skip seen cs
  | 0, seen, c :: cs =>
    match opening? (c :: cs) with
    | none => piecesFrom 0 (c :: seen) cs
    | some (kind, trims, size) =>
      let seen := if trims then trimEnd seen else seen
      let body := (c :: cs).drop size
      match kind with
      | none => do
        let n ← commentSize size body
        let rest ← piecesFrom (n - 1) [] cs
        return .text seen.reverse :: rest
      | some kind => do
        let (words, n) ← tagBody kind.closer 0 size [] body
        let rest ← piecesFrom (n - 1) [] cs
        return .text seen.reverse :: .tag kind words :: rest

/-- One line break at the end of a template is not part of it. -/
def dropFinalBreak (cs : List Char) : List Char :=
  match cs.getLast? with
  | some '\n' => cs.dropLast
  | _ => cs

/-- What the words of a tag mean: one name, or literals that make one text together. The word
for a denial is no name. -/
def exprOf? (words : List Word) : Option TemplateExpr :=
  match words with
  | [] | [.name "not"] => none
  | [.name s] => some (.variable s)
  | words =>
    let part? : Word → Option String
      | .literal s => some s
      | .name _ => none
    (words.mapM part?).map fun parts => .literal (String.join parts)

/-- How a run of nodes ends. -/
inductive Ending where
  | finish
  | elseIf (condition : TemplateExpr)
  | otherwise
  | endIf

/-- The nodes up to the end of the text or to a tag that ends them, how they end, and the
pieces left. -/
def nodesFrom : Nat → List Piece → Option (List TemplateNode × Ending × List Piece)
  | _, [] => some ([], .finish, [])
  | 0, _ => none
  | n + 1, .text s :: rest => do
    let (nodes, ending, left) ← nodesFrom n rest
    return (if s.isEmpty then nodes else .text (String.ofList s) :: nodes, ending, left)
  | n + 1, .tag .output words :: rest => do
    let value ← exprOf? words
    let (nodes, ending, left) ← nodesFrom n rest
    return (.output value :: nodes, ending, left)
  | n + 1, .tag .statement (.name "if" :: words) :: rest => do
    let (node, left) ← choiceFrom n (← exprOf? words) rest
    let (nodes, ending, left) ← nodesFrom n left
    return (node :: nodes, ending, left)
  | _, .tag .statement (.name "elif" :: words) :: rest => do
    return ([], .elseIf (← exprOf? words), rest)
  | _, .tag .statement [.name "else"] :: rest => some ([], .otherwise, rest)
  | _, .tag .statement [.name "endif"] :: rest => some ([], .endIf, rest)
  | _, _ => none
where
  /-- The branches of a choice whose condition has just been read. -/
  choiceFrom : Nat → TemplateExpr → List Piece → Option (TemplateNode × List Piece)
    | 0, _, _ => none
    | n + 1, condition, pieces => do
      let (yes, ending, left) ← nodesFrom n pieces
      match ending with
      | .finish => none
      | .endIf => return (.choice condition yes [], left)
      | .elseIf next =>
        let (node, left) ← choiceFrom n next left
        return (.choice condition yes [node], left)
      | .otherwise =>
        match ← nodesFrom n left with
        | (no, .endIf, left) => return (.choice condition yes no, left)
        | _ => none

/-- How deep the choices of pieces stand in one another; `level` are open in front of them. -/
def nesting (level : Nat) : List Piece → Nat
  | [] => level
  | .tag .statement (.name "if" :: _) :: rest => nesting (level + 1) rest
  | .tag .statement [.name "endif"] :: rest => max level (nesting (level - 1) rest)
  | _ :: rest => nesting level rest

/-- How deep choices may stand in one another. -/
def nestingLimit : Nat := 98

/-- Why a text is no template. -/
inductive Fault where
  | malformed | tooDeep
  deriving DecidableEq, Repr

/-- The template that a text writes. -/
def read (text : String) : Except Fault Template := do
  let some pieces := piecesFrom 0 [] (dropFinalBreak (Text.normalizeBreaks text.toList))
    | throw .malformed
  let some (nodes, .finish, _) := nodesFrom (2 * pieces.length + 1) pieces | throw .malformed
  if nesting 0 pieces > nestingLimit then throw .tooDeep
  return TemplateNode.amongAll (TemplateNode.namesOfAll nodes).eraseDups nodes

end Template

/-- Where the template of a run comes from. -/
inductive TemplateSource where
  | standard
  | text (text : String)
  /-- The template's file is no text. -/
  | undecodable
  deriving DecidableEq, Repr

end RequestBook
