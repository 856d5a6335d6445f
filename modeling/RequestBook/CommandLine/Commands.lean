import RequestBook.CommandLine.Options
import RequestBook.Headers

/-!
# Commands

The commands of the program with their options: the program itself, which only leads to its
commands, and `generate`.
-/

namespace RequestBook.CommandLine

inductive Command where
  | program | generate
  deriving DecidableEq, Repr

inductive ProgramOption where
  | version | help
  deriving DecidableEq, Repr

inductive GenerateOption where
  | url | schema | output | token | apiKey | apiKeyHeader | header | timeout | templateDirectory
  | verbose | help
  deriving DecidableEq, Repr

/-- What the program calls itself. -/
def programName : String := "gql-postman"

def programVersion : String := "0.1.0"

def helpText : String := "Show this message and exit."

def programOptions : List (Opt ProgramOption) :=
  [⟨.version, none, "--version", "", "Show the version and exit.", ""⟩,
    ⟨.help, none, "--help", "", helpText, ""⟩]

def GenerateOption.spec : GenerateOption → Opt GenerateOption
  | url => ⟨url, some 'u', "--url", "TEXT",
      "GraphQL endpoint URL. Introspected unless --schema is given.", "[required]"⟩
  | schema => ⟨schema, some 's', "--schema", "FILE",
      "Offline introspection JSON or SDL (.graphql, .graphqls) file.", ""⟩
  | output => ⟨output, some 'o', "--output", "FILE",
      "Output file (default: <host>.postman_collection.json).", ""⟩
  | token => ⟨token, none, "--token", "TEXT", "Bearer token for the introspection request.", ""⟩
  | apiKey => ⟨apiKey, none, "--api-key", "TEXT", "API key for the introspection request.", ""⟩
  | apiKeyHeader => ⟨apiKeyHeader, none, "--api-key-header", "TEXT",
      "Header that carries --api-key.", "[default: " ++ Provider.defaultKeyHeader ++ "]"⟩
  | header => ⟨header, some 'H', "--header", "TEXT",
      "Extra request header as 'Name: value'. Repeatable.", ""⟩
  | timeout => ⟨timeout, none, "--timeout", "FLOAT",
      "Introspection request timeout in seconds.", "[default: 30.0]"⟩
  | templateDirectory => ⟨templateDirectory, none, "--template-dir", "DIRECTORY",
      "Directory with a custom operation.graphql.j2 template.", ""⟩
  | verbose => ⟨verbose, some 'v', "--verbose", "", "Enable verbose output.", ""⟩
  | help => ⟨help, none, "--help", "", helpText, ""⟩

/-- All options of `generate`, in the order in which they are checked and listed. -/
def GenerateOption.all : List GenerateOption :=
  [url, schema, output, token, apiKey, apiKeyHeader, header, timeout, templateDirectory, verbose,
    help]

def generateOptions : List (Opt GenerateOption) := GenerateOption.all.map GenerateOption.spec

namespace Command

/-- The words that lead to a command. -/
def path : Command → String
  | program => programName
  | generate => programName ++ " generate"

/-- The line that says how a command is used. -/
def usage : Command → String
  | program => "Usage: " ++ program.path ++ " [OPTIONS] COMMAND [ARGS]..."
  | generate => "Usage: " ++ generate.path ++ " [OPTIONS]"

end Command

end RequestBook.CommandLine
