import RequestBook.Decimal.Reading
import RequestBook.Failure
import RequestBook.HostName.Label
import RequestBook.Json.Parser
import RequestBook.Text.Base64
import RequestBook.Text.Blank
import RequestBook.Text.Encoding
import RequestBook.Text.Escapes

/-!
# Targets

The URL that a request goes to, in its normal form: scheme and host in lower case, the usual
number behind the host left out, dot segments removed, and every character that its part does
not admit written as percent signs and digits.
-/

namespace RequestBook.Introspection

structure Target where
  scheme : String
  userinfo : String
  host : String
  portNumber : Option Int
  path : String
  query : Option String
  fragment : Option String
  deriving Repr

namespace Target

/-! ## Percent signs -/

def isUnreserved (c : Char) : Bool :=
  c.isAlphanum || c == '-' || c == '.' || c == '_' || c == '~'

def percent (c : Char) : List Char :=
  c.toString.toUTF8.toList.flatMap fun b => '%' :: (Text.hexDigits true 2 b.toNat).toList

def isHexDigit (c : Char) : Bool := (Text.hexValue c).isSome

/-- The characters with those that are not safe escaped; an escape in place stays one. -/
def quoted (safe : Char → Bool) : (kept : Nat) → List Char → List Char
  | _, [] => []
  | kept + 1, c :: cs => c :: quoted safe kept cs
  | 0, c :: cs =>
    let isEscape := c == '%' && (cs.take 2).length = 2 && (cs.take 2).all isHexDigit
    if isEscape then c :: quoted safe 2 cs
    else (if isUnreserved c || safe c then [c] else percent c) ++ quoted safe 0 cs

/-- Visible ASCII and the blank. -/
def isVisible (c : Char) : Bool := ' ' ≤ c && c ≤ '~'

def querySafe (c : Char) : Bool := isVisible c && !" \"#<>".toList.contains c

def pathSafe (c : Char) : Bool := querySafe c && !"?`\x7b\x7d".toList.contains c

def fragmentSafe (c : Char) : Bool := isVisible c && !" \"<>`".toList.contains c

def userinfoSafe (c : Char) : Bool := pathSafe c && !"/;=@[\\]^|".toList.contains c

def hostSafe (c : Char) : Bool := "!$&'()*+,;=\"`\x7b\x7d%|\\".toList.contains c

/-- The bytes of a text in which escapes stand for bytes. -/
def unquotedBytes : List Char → List UInt8
  | '%' :: a :: b :: cs =>
    match Text.hexValue a, Text.hexValue b with
    | some x, some y => UInt8.ofNat (16 * x + y) :: unquotedBytes cs
    | _, _ => '%'.toString.toUTF8.toList ++ unquotedBytes (a :: b :: cs)
  | c :: cs => c.toString.toUTF8.toList ++ unquotedBytes cs
  | [] => []

/-- The text that escapes stand for. -/
def unquoted (cs : List Char) : List Char := Text.Encoding.restore (unquotedBytes cs)

/-! ## Hosts and numbers -/

/-- Four runs of digits with dots between them. -/
def looksNumeric (cs : List Char) : Bool :=
  let runs := Text.pieces '.' cs
  runs.length = 4 && runs.all fun run => !run.isEmpty && run.all Char.isDigit

def isOctet (cs : List Char) : Bool :=
  !cs.isEmpty && cs.length ≤ 3 && cs.all Char.isDigit && Text.digitsValue cs ≤ 255 &&
    (cs.length = 1 || cs.head? ≠ some '0')

def isAddress4 (cs : List Char) : Bool :=
  let octets := Text.pieces '.' cs
  octets.length = 4 && octets.all isOctet

def isGroup (cs : List Char) : Bool := !cs.isEmpty && cs.length ≤ 4 && cs.all isHexDigit

/-- Groups of four digits with colons between them, of which eight make an address and two
colons in a row stand for those left out. The last two may be a numeric address. -/
def isAddress6 (cs : List Char) : Bool :=
  let (address, scope) := (cs.takeWhile (· ≠ '%'), cs.dropWhile (· ≠ '%'))
  let groups := Text.pieces ':' address
  let last := groups.getLastD []
  let groups :=
    if last.contains '.' then
      if isAddress4 last then groups.dropLast ++ [['0'], ['0']] else [[]]
    else groups
  let gaps := ((groups.drop 1).dropLast.filter List.isEmpty).length
  let given := groups.filter (!·.isEmpty)
  let opensEmpty := groups.head? = some []
  let closesEmpty := groups.getLast? = some []
  let second := groups[1]? = some []
  let beforeLast := groups[groups.length - 2]? = some []
  scope ≠ ['%'] && !(scope.drop 1).contains '%' && given.all isGroup && groups.length ≥ 3 &&
    if gaps = 0 then groups.length = 8 && !opensEmpty && !closesEmpty
    else gaps = 1 && given.length ≤ 7 && (!opensEmpty || second) && (!closesEmpty || beforeLast)

/-- The normal form of a host. -/
def host? (cs : List Char) : Option String :=
  if looksNumeric cs then
    if isAddress4 cs then some (String.ofList cs) else none
  else if cs.head? = some '[' ∧ cs.getLast? = some ']' ∧ cs.length ≥ 2 then
    let address := (cs.drop 1).dropLast
    if isAddress6 address then some (String.ofList address) else none
  else if cs.all (·.toNat < 128) then
    some (String.ofList (quoted hostSafe 0 (cs.map Char.toLower)))
  else (HostName.encode? cs).map String.ofList

/-- A whole number with a sign and with blanks around it. -/
def integer? (cs : List Char) : Option Int := do
  let (negative, ds) := Decimal.splitSign (← Text.plainNumber? (Text.trim Text.isMargin cs))
  guard (!ds.isEmpty && ds.all Char.isDigit && ds.length ≤ Text.digitLimit)
  let n : Int := Text.digitsValue ds
  return if negative then -n else n

/-- The number that a scheme stands for. -/
def usualPortNumber : String → Option Int
  | "ftp" => some 21
  | "http" | "ws" => some 80
  | "https" | "wss" => some 443
  | _ => none

/-- The number behind a host, left out where it is the usual one. -/
def portNumber? (scheme : String) (cs : List Char) : Option (Option Int) :=
  if cs.isEmpty then some none
  else (integer? cs).map fun n => if usualPortNumber scheme = some n then none else some n

/-! ## Paths -/

/-- The segments without `.`, and without `..` and the segment in front of it; `kept` are
those so far, last first. -/
def withoutDots (kept : List (List Char)) : List (List Char) → List (List Char)
  | [] => kept.reverse
  | ['.'] :: rest => withoutDots kept rest
  | ['.', '.'] :: rest => withoutDots (if kept = [[]] then kept else kept.drop 1) rest
  | segment :: rest => withoutDots (segment :: kept) rest

def normalPath (cs : List Char) : List Char :=
  let segments := Text.pieces '/' cs
  let kept := withoutDots [] segments
  ((kept.map String.ofList |> Text.separated "/")).toList

/-! ## Whole URLs -/

/-- The scheme in front of a colon, and the rest. -/
def splitScheme (cs : List Char) : String × List Char :=
  let isSchemeChar (c : Char) := c.isAlphanum || c == '+' || c == '.' || c == '-'
  match cs with
  | ':' :: rest => ("", rest)
  | c :: _ =>
    match cs.dropWhile isSchemeChar with
    | ':' :: rest =>
      if c.isAlpha then (String.ofList (cs.takeWhile isSchemeChar), rest) else ("", cs)
    | _ => ("", cs)
  | [] => ("", [])

/-- The part in front of the last `@`, and the rest. -/
def splitUserinfo (cs : List Char) : List Char × List Char :=
  match (Text.pieces '@' cs).reverse with
  | [] | [_] => ([], cs)
  | last :: before =>
    ((Text.separated "@" (before.reverse.map String.ofList)).toList, last)

/-- The host, which may stand in brackets, and what follows it. -/
def splitHost (cs : List Char) : List Char × List Char :=
  let bracketed := (cs.reverse.dropWhile (· ≠ ']')).reverse
  if cs.head? = some '[' ∧ !bracketed.isEmpty then (bracketed, cs.drop bracketed.length)
  else (cs.takeWhile (· ≠ ':'), cs.dropWhile (· ≠ ':'))

def urlLimit : Nat := 65536

/-- A URL in its normal form, relative or not; `none` if it is none. -/
def parse? (url : String) : Option Target := do
  let cs := url.toList
  guard (cs.length ≤ urlLimit && cs.all fun c => c.toNat ≥ 128 || isVisible c)
  let (scheme, cs) := splitScheme cs
  let (authority, cs) := match cs with
    | '/' :: '/' :: cs => cs.span fun c => c != '/' && c != '?' && c != '#'
    | cs => ([], cs)
  let (path, cs) := cs.span fun c => c != '?' && c != '#'
  let (query, cs) := match cs with
    | '?' :: cs => (some (cs.takeWhile (· ≠ '#')), cs.dropWhile (· ≠ '#'))
    | cs => (none, cs)
  let fragment := if cs.isEmpty then none else some (cs.drop 1)
  let (userinfo, authority) := splitUserinfo authority
  let (host, behind) := splitHost authority
  let host ← host? host
  let number ← portNumber? scheme (if behind.head? = some ':' then behind.drop 1 else behind)
  let hasAuthority := !userinfo.isEmpty || host ≠ "" || number.isSome
  guard (!hasAuthority || path.isEmpty || path.head? = some '/')
  guard (scheme ≠ "" || hasAuthority ||
    !(['/', '/'].isPrefixOf path || [':'].isPrefixOf path))
  let path := if scheme ≠ "" || hasAuthority then normalPath path else path
  let text (safe : Char → Bool) (cs : List Char) := String.ofList (quoted safe 0 cs)
  return ⟨scheme.toLower, text userinfoSafe userinfo, host, number, text pathSafe path,
    query.map (text querySafe), fragment.map (text fragmentSafe)⟩

/-- Whether a target says where to go and how. -/
def isAbsolute (t : Target) : Bool := t.scheme ≠ "" && t.host ≠ ""

/-- What is wrong with a host that stands for a name in other characters and cannot be read. -/
def hostFault? (t : Target) : Option HostName.LabelFault :=
  let host := t.host.toList
  if Text.Punycode.mark.isPrefixOf host then HostName.readingFault? host else none

def queryText (t : Target) : String := (t.query.map ("?" ++ ·)).getD ""

def authority (t : Target) : String :=
  (if t.userinfo = "" then "" else t.userinfo ++ "@") ++
    (if t.host.contains ':' then "[" ++ t.host ++ "]" else t.host) ++
    ((t.portNumber.map fun n => ":" ++ toString n).getD "")

/-- The text of a target. One that is not absolute is a path and query from the root. -/
def text (t : Target) : String :=
  if t.isAbsolute then
    t.scheme ++ "://" ++ t.authority ++ t.path ++ t.queryText ++
      ((t.fragment.map ("#" ++ ·)).getD "")
  else "/" ++ String.ofList ((t.path ++ t.queryText).toList.dropWhile (· = '/'))

/-- Whether the parts of a target that is not absolute are as short as a URL has to be, escapes
included. -/
def isShort (t : Target) : Bool :=
  let (path, query) := t.text.toList.span (· ≠ '?')
  t.isAbsolute || (path.length ≤ urlLimit && query.length ≤ urlLimit + 1)

/-- User and password as the value of a basic authorization. -/
def credentials? (t : Target) : Option String :=
  let cs := t.userinfo.toList
  let user := unquoted (cs.takeWhile (· ≠ ':'))
  let password := unquoted ((cs.dropWhile (· ≠ ':')).drop 1)
  if !t.isAbsolute || (user.isEmpty && password.isEmpty) then none
  else
    let bytes := (String.ofList (user ++ ':' :: password)).toUTF8.toList
    some ("Basic " ++ String.ofList (Text.Base64.encode bytes))

end Target

end RequestBook.Introspection
