import LogSearch.Backoff
import LogSearch.Client.Http
import LogSearch.Client.Message
import LogSearch.Client.Scan
import LogSearch.CommandLine.Arguments
import LogSearch.CommandLine.Plan
import LogSearch.CommandLine.Program
import LogSearch.Json.Reader
import LogSearch.Json.Record
import LogSearch.Json.Writer
import LogSearch.Kql.Lexer
import LogSearch.Kql.Parser
import LogSearch.Kql.Printer
import LogSearch.Log
import LogSearch.Main
import LogSearch.Proofs.Client.Answering
import LogSearch.Proofs.Client.Attempts
import LogSearch.Proofs.Client.BrokenOutput
import LogSearch.Proofs.Client.ChangingIndex
import LogSearch.Proofs.Client.Counting
import LogSearch.Proofs.Client.Credentials
import LogSearch.Proofs.Client.Device
import LogSearch.Proofs.Client.Doubling
import LogSearch.Proofs.Client.Endpoint
import LogSearch.Proofs.Client.FirstRequest
import LogSearch.Proofs.Client.Retry
import LogSearch.Proofs.Client.Scan
import LogSearch.Proofs.Client.Streaming
import LogSearch.Proofs.Client.Turns
import LogSearch.Proofs.CommandLine.Explanation
import LogSearch.Proofs.Json.Encoding
import LogSearch.Proofs.Json.Grammar
import LogSearch.Proofs.Json.Lines
import LogSearch.Proofs.Json.Literal
import LogSearch.Proofs.Json.Records
import LogSearch.Proofs.Json.Results
import LogSearch.Proofs.Json.Tokens
import LogSearch.Proofs.Json.Unambiguous
import LogSearch.Proofs.Kql.Acceptance
import LogSearch.Proofs.Kql.Boundaries
import LogSearch.Proofs.Kql.DepthLimit
import LogSearch.Proofs.Kql.Escaping
import LogSearch.Proofs.Kql.Faults
import LogSearch.Proofs.Kql.Grammar
import LogSearch.Proofs.Kql.Height
import LogSearch.Proofs.Kql.Layout
import LogSearch.Proofs.Kql.OpenGroups
import LogSearch.Proofs.Kql.Outline
import LogSearch.Proofs.Kql.Printing
import LogSearch.Proofs.Kql.QuotedLiterals
import LogSearch.Proofs.Kql.Quoting
import LogSearch.Proofs.Kql.Reading
import LogSearch.Proofs.Kql.RoundTrip
import LogSearch.Proofs.Kql.Scanning
import LogSearch.Proofs.Kql.Slices
import LogSearch.Proofs.Kql.Spelling
import LogSearch.Proofs.Kql.Tree
import LogSearch.Proofs.Kql.Words
import LogSearch.Proofs.Query.Meaning
import LogSearch.Proofs.Query.TopDown
import LogSearch.Proofs.Query.Wire
import LogSearch.Proofs.Search.RoundTrip
import LogSearch.Proofs.Settings.CloudId
import LogSearch.Proofs.Specifier.Reading
import LogSearch.Proofs.Specifier.Spelling
import LogSearch.Proofs.Time.Formats
import LogSearch.Query.OfNode
import LogSearch.Search.Refusal
import LogSearch.Search.Request
import LogSearch.Search.Response
import LogSearch.Settings.Basic
import LogSearch.Settings.CloudId
import LogSearch.Specifier
import LogSearch.Stream
import LogSearch.Time.Clock
import LogSearch.Time.Reader
import LogSearch.Time.Window
import LogSearch.Url.Basic
import LogSearch.World
