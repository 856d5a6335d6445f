import RequestBook.CommandLine.Commands
import RequestBook.Decimal.Reading
import RequestBook.Files
import RequestBook.Introspection.Fetch

/-!
# Invocations

What a list of arguments asks for, or why it asks for nothing. All arguments are read before
any value is checked; values are checked in the order in which their options were given, and
then words that belong to nothing are refused.
-/

namespace RequestBook.CommandLine

/-- Everything that `generate` can be told. -/
structure Settings where
  url : String
  schema : Option String
  output : Option String
  token : Option String
  apiKey : Option String
  apiKeyHeader : String
  headers : List String
  timeout : Json
  templateDirectory : Option String
  verbose : Bool

inductive Invocation where
  | version
  | help (command : Command)
  | generate (settings : Settings)

/-- The variables that stand for options that are not given. -/
structure Environment where
  token : Option String
  apiKey : Option String

/-- What a path has to lead to. -/
inductive PathKind where
  | file | directory
  deriving DecidableEq, Repr

inductive ValueFault where
  | absent (kind : PathKind) (path : String)
  /-- The path leads to the other kind of entry. -/
  | mistaken (kind : PathKind) (path : String)
  | notNumber (text : String)
  /-- A value that is refused only when it is used. -/
  | unusable (f : Failure)

inductive UsageFault where
  | option (fault : OptionFault)
  | missingCommand
  | unknownCommand (name : String)
  | missingOption (o : GenerateOption)
  | badValue (o : GenerateOption) (fault : ValueFault)
  | extraWords (words : List String)

/-- Why arguments lead to no invocation. -/
inductive Refusal where
  /-- There are no arguments. -/
  | bare
  | usage (command : Command) (fault : UsageFault)
  | failed (f : Failure)

/-! ## Messages -/

namespace PathKind

def text : PathKind → String
  | file => "File"
  | directory => "Directory"

def other : PathKind → PathKind
  | file => directory
  | directory => file

end PathKind

def ValueFault.message : ValueFault → String
  | absent kind path => kind.text ++ " " ++ Json.shownText path ++ " does not exist."
  | mistaken kind path =>
    kind.text ++ " " ++ Json.shownText path ++ " is a " ++ kind.other.text.toLower ++ "."
  | notNumber text => Json.shownText text ++ " is not a valid float."
  | unusable f => f.message

def OptionFault.message : OptionFault → String
  | unknown name [] => "No such option: " ++ name
  | unknown name [one] => "No such option: " ++ name ++ " Did you mean " ++ one ++ "?"
  | unknown name close =>
    "No such option: " ++ name ++ " (Possible options: " ++ Text.separated ", " close ++ ")"
  | missingValue name => "Option " ++ Json.shownText name ++ " requires an argument."
  | unexpectedValue name => "Option " ++ Json.shownText name ++ " does not take a value."

namespace UsageFault

def message : UsageFault → String
  | option fault => fault.message
  | missingCommand => "Missing command."
  | unknownCommand name => "No such command " ++ Json.shownText name ++ "."
  | missingOption o => "Missing option " ++ o.spec.hint ++ "."
  | badValue o (.unusable f) => "Invalid value for " ++ o.spec.long ++ ": " ++ f.message
  | badValue o fault => "Invalid value for " ++ o.spec.hint ++ ": " ++ fault.message
  | extraWords words =>
    "Got unexpected extra argument" ++ (if words.length = 1 then "" else "s") ++
      " (" ++ Text.separated " " words ++ ")"

/-- Whether the usage of the command is shown above the message. -/
def showsUsage : UsageFault → Bool
  | option (.missingValue _) | option (.unexpectedValue _) => false
  | _ => true

end UsageFault

/-! ## Values -/

/-- A text that is there; an empty one counts as absent. -/
def present (text : Option String) : Option String := text.filter (· ≠ "")

/-- Checks what a path leads to. -/
def checkPath (fs : Files) (o : GenerateOption) (kind : PathKind) (required : Bool)
    (path : String) : Except Refusal Unit :=
  let refuse (fault : ValueFault) := Except.error (.usage .generate (.badValue o fault))
  if path.toList.contains '\x00' then .error (.failed .nulInPath)
  else match fs.look path, kind with
    | none, _ => if required then refuse (.absent kind path) else .ok ()
    | some .directory, .file | some (.file _), .directory => refuse (.mistaken kind path)
    | some _, _ => .ok ()

/-- Checks the value of an option, if it has one. -/
def checkValue (fs : Files) (o : GenerateOption) (value : Option String) : Except Refusal Unit :=
  match o, value with
  | .url, none => .error (.usage .generate (.missingOption .url))
  | .schema, some path => checkPath fs .schema .file true path
  | .output, some path => checkPath fs .output .file false path
  | .templateDirectory, some path => checkPath fs .templateDirectory .directory true path
  | .timeout, some text =>
    if (Decimal.float? text).isSome then .ok ()
    else .error (.usage .generate (.badValue .timeout (.notNumber text)))
  | _, _ => .ok ()

/-- The options that were given, in the order of their first occurrence, and then all others. -/
def checkingOrder (given : Given GenerateOption) : List GenerateOption :=
  (given.options.map (·.1) ++ GenerateOption.all).eraseDups

def settingsOf (env : Environment) (url : String) (given : Given GenerateOption) : Settings where
  url
  schema := given.value? .schema
  output := given.value? .output
  token := (given.value? .token).or (present env.token)
  apiKey := (given.value? .apiKey).or (present env.apiKey)
  apiKeyHeader := (given.value? .apiKeyHeader).getD Provider.defaultKeyHeader
  headers := given.values .header
  timeout :=
    (((given.value? .timeout).bind Decimal.float?).map Json.float).getD
      Introspection.defaultTimeout
  templateDirectory := given.value? .templateDirectory
  verbose := given.has .verbose

/-! ## Reading arguments -/

/-- What arguments ask of `generate`. -/
def readGenerate (env : Environment) (fs : Files) (args : List String) :
    Except Refusal Invocation := do
  match readArguments generateOptions true args with
  | .error fault => throw (.usage .generate (.option fault))
  | .ok given =>
    if given.has .help then return .help .generate
    (checkingOrder given).forM fun o => checkValue fs o (given.value? o)
    unless given.words.isEmpty do throw (.usage .generate (.extraWords given.words))
    match given.value? .url with
    | some url => return .generate (settingsOf env url given)
    | none => throw (.usage .generate (.missingOption .url))

/-- What arguments ask of the program itself, or the words that name a command. -/
def readProgram (args : List String) : Except Refusal (Invocation ⊕ List String) :=
  match readArguments programOptions false args with
  | .error fault => .error (.usage .program (.option fault))
  | .ok given =>
    match given.options with
    | (.version, _) :: _ => .ok (.inl .version)
    | (.help, _) :: _ => .ok (.inl (.help .program))
    | [] => .ok (.inr given.words)

/-- Words that name no command. If they start like an option they are read as arguments once
more, so that an option behind two hyphens still counts. -/
def readUnknown (name : String) (rest : List String) : Except Refusal Invocation := do
  if name.startsWith "-" then
    match ← readProgram (name :: rest) with
    | .inl invocation => return invocation
    | .inr _ => throw (.usage .program (.unknownCommand name))
  else throw (.usage .program (.unknownCommand name))

/-- What arguments ask for. -/
def Invocation.ofArguments (env : Environment) (fs : Files) (args : List String) :
    Except Refusal Invocation := do
  if args.isEmpty then throw .bare
  match ← readProgram args with
  | .inl invocation => return invocation
  | .inr [] => throw (.usage .program .missingCommand)
  | .inr (name :: rest) =>
    if name = "generate" then readGenerate env fs rest else readUnknown name rest

end RequestBook.CommandLine
