import RequestBook.Collection.Assembly
import RequestBook.Collection.Basic
import RequestBook.Collection.Reading
import RequestBook.CommandLine.Commands
import RequestBook.CommandLine.Help
import RequestBook.CommandLine.Invocation
import RequestBook.CommandLine.Options
import RequestBook.CommandLine.Run
import RequestBook.Decimal.Reading
import RequestBook.Decimal.Shortest
import RequestBook.Definitions.Basic
import RequestBook.Definitions.Building
import RequestBook.Definitions.Builtin
import RequestBook.Definitions.Conformance
import RequestBook.Definitions.Constants
import RequestBook.Definitions.Describing
import RequestBook.Definitions.Rules
import RequestBook.Document.Basic
import RequestBook.Document.Parser
import RequestBook.Document.Printer
import RequestBook.Entries
import RequestBook.Events
import RequestBook.Failure
import RequestBook.Files
import RequestBook.Headers
import RequestBook.HostName.Direction
import RequestBook.HostName.Label
import RequestBook.HostName.Letters
import RequestBook.HostName.Newer
import RequestBook.Introspection.Fetch
import RequestBook.Introspection.Query
import RequestBook.Introspection.Target
import RequestBook.Json.Basic
import RequestBook.Json.Display
import RequestBook.Json.Parser
import RequestBook.Json.Printer
import RequestBook.Main
import RequestBook.Name
import RequestBook.Proofs.Collection.Assembly
import RequestBook.Proofs.Collection.Checking
import RequestBook.Proofs.Collection.Failures
import RequestBook.Proofs.Collection.FreeText
import RequestBook.Proofs.Collection.Order
import RequestBook.Proofs.Collection.Saving
import RequestBook.Proofs.Collection.Sources
import RequestBook.Proofs.CommandLine.Arguments
import RequestBook.Proofs.CommandLine.DefaultOutput
import RequestBook.Proofs.CommandLine.Saving
import RequestBook.Proofs.CommandLine.Secrets
import RequestBook.Proofs.Definitions.Building
import RequestBook.Proofs.Definitions.Conformance
import RequestBook.Proofs.Definitions.Reading
import RequestBook.Proofs.Definitions.Signature
import RequestBook.Proofs.Document.Parsed
import RequestBook.Proofs.Document.Places
import RequestBook.Proofs.Document.Printing
import RequestBook.Proofs.Document.RootCall
import RequestBook.Proofs.Document.Spelled
import RequestBook.Proofs.Document.Taking
import RequestBook.Proofs.Document.TakingDefinitions
import RequestBook.Proofs.Document.TypeExpr
import RequestBook.Proofs.Document.WellFormed
import RequestBook.Proofs.Entries
import RequestBook.Proofs.Files
import RequestBook.Proofs.Headers
import RequestBook.Proofs.Headers.Leaves
import RequestBook.Proofs.Headers.Lines
import RequestBook.Proofs.Introspection.Data
import RequestBook.Proofs.Introspection.Fetch
import RequestBook.Proofs.Introspection.Headers
import RequestBook.Proofs.Introspection.Secrecy
import RequestBook.Proofs.Json.Appending
import RequestBook.Proofs.Json.Breaks
import RequestBook.Proofs.Json.Escapes
import RequestBook.Proofs.Json.Keeping
import RequestBook.Proofs.Json.Reading
import RequestBook.Proofs.Json.Words
import RequestBook.Proofs.Json.Writing
import RequestBook.Proofs.Outcomes
import RequestBook.Proofs.Repetitions
import RequestBook.Proofs.Request.Call
import RequestBook.Proofs.Request.Composed
import RequestBook.Proofs.Request.Description
import RequestBook.Proofs.Request.Endpoint
import RequestBook.Proofs.Request.FreeText
import RequestBook.Proofs.Request.Kinds
import RequestBook.Proofs.Request.Memory
import RequestBook.Proofs.Request.Reprint
import RequestBook.Proofs.Request.Resolver
import RequestBook.Proofs.Request.Selection
import RequestBook.Proofs.Request.Session
import RequestBook.Proofs.Request.Signature
import RequestBook.Proofs.Request.Source
import RequestBook.Proofs.Request.Stages
import RequestBook.Proofs.Request.Synthesis
import RequestBook.Proofs.Request.Template
import RequestBook.Proofs.Request.UrlParts
import RequestBook.Proofs.Request.Validity
import RequestBook.Proofs.Request.Variables
import RequestBook.Proofs.Request.Wrappers
import RequestBook.Proofs.Schema.Describing
import RequestBook.Proofs.Schema.Reading
import RequestBook.Proofs.Schema.Reference
import RequestBook.Proofs.Schema.Validity
import RequestBook.Proofs.Text.Blank
import RequestBook.Proofs.Text.Encoding
import RequestBook.Proofs.Text.Layout
import RequestBook.Proofs.Text.Lines
import RequestBook.Proofs.Token.BlockText
import RequestBook.Proofs.Token.Dedent
import RequestBook.Proofs.Token.Layout
import RequestBook.Proofs.Token.Number
import RequestBook.Proofs.Token.Printable
import RequestBook.Proofs.Token.Quoted
import RequestBook.Proofs.Token.Reading
import RequestBook.Proofs.Token.Results
import RequestBook.Proofs.Token.Spelling
import RequestBook.Proofs.Token.Stopping
import RequestBook.Request.Endpoint
import RequestBook.Request.Formatting
import RequestBook.Request.Literal
import RequestBook.Request.Resolver
import RequestBook.Request.Session
import RequestBook.Request.Synthesis
import RequestBook.Request.Template
import RequestBook.Schema.Basic
import RequestBook.Schema.File
import RequestBook.Schema.Introspection
import RequestBook.Text.Base64
import RequestBook.Text.Blank
import RequestBook.Text.Case
import RequestBook.Text.CharacterNames
import RequestBook.Text.CharacterNames.Alphabets
import RequestBook.Text.CharacterNames.Ancient
import RequestBook.Text.CharacterNames.EastAsia
import RequestBook.Text.CharacterNames.Forms
import RequestBook.Text.CharacterNames.Hieroglyphs
import RequestBook.Text.CharacterNames.Notation
import RequestBook.Text.CharacterNames.Pictures
import RequestBook.Text.CharacterNames.Scripts
import RequestBook.Text.CharacterNames.Symbols
import RequestBook.Text.Composition
import RequestBook.Text.ControlSequences
import RequestBook.Text.Digits
import RequestBook.Text.Encoding
import RequestBook.Text.Escapes
import RequestBook.Text.Excerpt
import RequestBook.Text.Identifiers
import RequestBook.Text.Layout
import RequestBook.Text.Lines
import RequestBook.Text.Marks
import RequestBook.Text.Pieces
import RequestBook.Text.PlainLetters
import RequestBook.Text.Printable
import RequestBook.Text.Punycode
import RequestBook.Text.Ranges
import RequestBook.Text.Resemblance
import RequestBook.Text.Suggestion
import RequestBook.Text.Syllables
import RequestBook.Text.Wrapping
import RequestBook.Token.Basic
import RequestBook.Token.BlockText
import RequestBook.Token.Lexer
import RequestBook.Token.Reader
