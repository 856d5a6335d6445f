import RequestBook.Collection.Reading
import RequestBook.CommandLine.Help
import RequestBook.CommandLine.Invocation
import RequestBook.Events
import RequestBook.Text.ControlSequences

/-!
# Runs

A whole run of the program: from arguments, environment, files and a server's reply to what is
printed, saved, reported and sent. A collection is saved only when it is complete, as the last
step of a run, so a run that fails leaves all files as they were.
-/

namespace RequestBook.CommandLine

/-- What a run starts from. -/
structure World where
  environment : Environment
  files : Files
  reply : Introspection.Reply

structure Outcome where
  exitCode : Nat
  output : String
  errors : String
  /-- A failure that ended the run without being told to the user. -/
  failure : Option Failure
  /-- The place of the file that was saved, and its text. -/
  saved : Option (Place × String)
  events : List Event
  requests : List Introspection.Outgoing

/-! ## Ends without a collection -/

namespace Outcome

def ended (exitCode : Nat) (output errors : String) : Outcome :=
  ⟨exitCode, output, errors, none, none, [], []⟩

/-- The exit code of a run that was asked for something it cannot read. -/
def usageCode : Nat := 2

/-- The exit code of a run that fails. -/
def failureCode : Nat := 1

def ofUsageFault (c : Command) (fault : UsageFault) : Outcome :=
  let usage :=
    if fault.showsUsage then
      c.usage ++ "\nTry '" ++ c.path ++ " --help' for help.\n\n"
    else ""
  ended usageCode "" (usage ++ "Error: " ++ fault.message ++ "\n")

def unreported (f : Failure) : Outcome := { ended failureCode "" "" with failure := some f }

def ofRefusal : Refusal → Outcome
  | .bare => ended usageCode "" (Command.program.help ++ "\n")
  | .usage c fault => ofUsageFault c fault
  | .failed f => unreported f

/-- The outcome with its texts as they are printed. -/
def printed (o : Outcome) : Outcome :=
  { o with output := Text.printed o.output, errors := Text.printed o.errors }

end Outcome

/-! ## Making a collection -/

/-- A collection or the failure to make one, with what happened on the way. -/
structure Attempt where
  result : Except Failure Collection
  events : List Event
  requests : List Introspection.Outgoing

def templateSource (fs : Files) (directory : Option String) : TemplateSource :=
  match directory.bind (fs.lookIn · templateName) with
  | some (.file bytes) =>
    match Text.Encoding.utf8.decode bytes with
    | some text => .text text
    | none => .undecodable
  | _ => .standard

namespace Settings

/-- The headers' lines are overruled by the API key, and both by the token. -/
def providers (s : Settings) (lines : Headers) : Provider :=
  .combined (.fixed lines ::
    ((present s.apiKey).map fun key => Provider.apiKey key s.apiKeyHeader).toList ++
    ((present s.token).map Provider.bearer).toList)

/-- The events of assembling a schema that has been read. -/
def assemblyEvents (s : Settings) (source : TemplateSource) : Except Failure Schema → List Event
  | .ok schema => schema.assemblyEvents source s.url
  | .error _ => []

/-- A collection from a schema file. -/
def fromFile (s : Settings) (source : TemplateSource) (path : String) (bytes : List UInt8) :
    Attempt :=
  let schema := Schema.ofFile (pathName path) bytes
  ⟨schema.bind (Schema.assemble source · s.url),
    .loading path :: Schema.fileEvents (normalPath path) (pathName path) bytes ++
      s.assemblyEvents source schema,
    []⟩

/-- A collection from what the endpoint says of itself. -/
def fromServer (s : Settings) (source : TemplateSource) (lines : Headers)
    (reply : Introspection.Reply) : Attempt :=
  let (requests, data) := Introspection.fetch s.url (s.providers lines) s.timeout reply
  let events := match data with
    | .ok data => Schema.readingEvents data ++ s.assemblyEvents source (Schema.ofJson data)
    | .error _ => []
  ⟨data.bind (Collection.ofResult source s.url), .fetching s.url :: events, requests⟩

/-- The path that the collection is saved under. -/
def outputPath (s : Settings) (endpoint : Endpoint) : String :=
  normalPath ((present s.output).getD endpoint.defaultOutput)

def attempt (s : Settings) (w : World) : Except Refusal Attempt :=
  let source := templateSource w.files s.templateDirectory
  match s.schema with
  | some path =>
    match w.files.look path with
    | some (.file bytes) => .ok (s.fromFile source path bytes)
    | _ => .error (.failed .missingFile)
  | none =>
    match Headers.ofLines s.headers with
    | .ok lines => .ok (s.fromServer source lines w.reply)
    | .error f => .error (.usage .generate (.badValue .header (.unusable f)))

/-- The events that are reported; details only where they are asked for. -/
def reported (s : Settings) (events : List Event) : List Event :=
  events.filter fun e => s.verbose || e.level ≠ .debug

end Settings

/-! ## Ends with or without a collection -/

namespace Attempt

/-- The end of a run whose attempt failed. -/
def failedRun (a : Attempt) (f : Failure) : Outcome :=
  if f.isReported then
    ⟨Outcome.failureCode, "", "Error: " ++ f.message ++ "\n", none, none,
      a.events ++ [.failed f.message], a.requests⟩
  else ⟨Outcome.failureCode, "", "", some f, none, a.events, a.requests⟩

/-- The end of a run whose collection is saved under a path. -/
def savedRun (a : Attempt) (c : Collection) (path : String) (file : Place × String) : Outcome :=
  let count := c.items.length
  ⟨0, s!"Done! Generated {count} requests in " ++ path ++ "\n", "", none, some file,
    a.events ++ [.saved count path], a.requests⟩

def run (a : Attempt) (fs : Files) (path : String) : Outcome :=
  match a.result with
  | .error f => a.failedRun f
  | .ok c =>
    match c.fileAt fs path with
    | .error f => a.failedRun f
    | .ok file => a.savedRun c path file

end Attempt

def Settings.run (s : Settings) (w : World) : Outcome :=
  match Endpoint.ofUrl s.url with
  | .error f => .ofUsageFault .generate (.badValue .url (.unusable f))
  | .ok endpoint =>
    match s.attempt w with
    | .error refusal => .ofRefusal refusal
    | .ok a =>
      let outcome := a.run w.files (s.outputPath endpoint)
      { outcome with events := s.reported outcome.events }

def Invocation.run (i : Invocation) (w : World) : Outcome :=
  match i with
  | .version => .ended 0 (programName ++ ", version " ++ programVersion ++ "\n") ""
  | .help c => .ended 0 c.help ""
  | .generate s => s.run w

/-- A run of the program. -/
def run (args : List String) (w : World) : Outcome :=
  let outcome := match Invocation.ofArguments w.environment w.files args with
    | .ok invocation => invocation.run w
    | .error refusal => .ofRefusal refusal
  outcome.printed

end RequestBook.CommandLine
