import StubServer.Admin
import StubServer.Cli
import StubServer.Cli.Arguments
import StubServer.Config.Basic
import StubServer.Config.Decode
import StubServer.Config.Encode
import StubServer.Config.Example
import StubServer.Config.File
import StubServer.Config.Validate
import StubServer.Documents
import StubServer.Endpoint.Basic
import StubServer.Endpoint.Load
import StubServer.Endpoint.Response
import StubServer.Endpoint.Templates
import StubServer.Files
import StubServer.Files.Tree
import StubServer.History.Basic
import StubServer.History.Queue
import StubServer.History.Record
import StubServer.Http.Header
import StubServer.Http.Query
import StubServer.Http.Request
import StubServer.Http.Response
import StubServer.Http.Target
import StubServer.Json.Basic
import StubServer.Json.Path
import StubServer.Json.PathReader
import StubServer.Json.Pointer
import StubServer.Json.Printer
import StubServer.Json.Reader
import StubServer.Main
import StubServer.Net.SocketAddress
import StubServer.Number.Double
import StubServer.Number.Reader
import StubServer.Number.Shortest
import StubServer.Number.Width
import StubServer.Regex.Basic
import StubServer.Regex.Category
import StubServer.Regex.Class
import StubServer.Regex.Folding
import StubServer.Regex.NamedSet
import StubServer.Regex.Parser
import StubServer.Regex.Property
import StubServer.Regex.Script
import StubServer.Regex.WordSet
import StubServer.Route.Match
import StubServer.Route.Pattern
import StubServer.Route.Tree
import StubServer.Route.Walk
import StubServer.Server.Basic
import StubServer.Server.Snapshot
import StubServer.Table
import StubServer.Template.Basic
import StubServer.Template.Failure
import StubServer.Template.Frame
import StubServer.Template.Helper
import StubServer.Template.Layout
import StubServer.Template.Operand
import StubServer.Template.Pieces
import StubServer.Template.Reader
import StubServer.Template.Render
import StubServer.Template.Session
import StubServer.Template.Tag
import StubServer.Template.Value
import StubServer.Text.Base64
import StubServer.Text.Blank
import StubServer.Text.Case
import StubServer.Text.CaseTable
import StubServer.Text.Percent
import StubServer.Text.Ranges
import StubServer.Text.Utf8
import StubServer.Time.Format
import StubServer.Time.Instant
import StubServer.Time.Reader
import StubServer.Yaml.Node
import StubServer.Yaml.Scalar
import StubServer.Yaml.Token
import StubServer.Yaml.Tokens
import StubServer.Yaml.Value
import StubServer.Proofs.Table.Order
import StubServer.Proofs.Text.Pieces
import StubServer.Proofs.Text.Utf8
import StubServer.Proofs.Text.Escapes
import StubServer.Proofs.Text.Escaping
import StubServer.Proofs.Text.Lowering
import StubServer.Proofs.Json.RoundTrip
import StubServer.Proofs.Json.Edits
import StubServer.Proofs.Json.Pointers
import StubServer.Proofs.Json.Frame
import StubServer.Proofs.Documents.FailedEdits
import StubServer.Proofs.Documents.Edits
import StubServer.Proofs.Documents.Undoing
import StubServer.Proofs.Route.Acceptance
import StubServer.Proofs.Route.Contents
import StubServer.Proofs.Route.Representation
import StubServer.Proofs.Route.Trail
import StubServer.Proofs.Route.Selection
import StubServer.Proofs.Route.Cursor
import StubServer.Proofs.Route.Outcome
import StubServer.Proofs.Route.Methods
import StubServer.Proofs.Route.Commitment
import StubServer.Proofs.Route.PathText
import StubServer.Proofs.Route.Grammar
import StubServer.Proofs.Route.Alone
import StubServer.Proofs.Route.Captures
import StubServer.Proofs.Route.Origins
import StubServer.Proofs.Route.ReservedTexts
import StubServer.Proofs.Route.LoadOrder
import StubServer.Proofs.Route.Specificity
import StubServer.Proofs.Route.Literals
import StubServer.Proofs.Route.Mismatches
import StubServer.Proofs.Route.Hosts
import StubServer.Proofs.Endpoint.Loading
import StubServer.Proofs.Endpoint.Repetition
import StubServer.Proofs.Endpoint.Numbering
import StubServer.Proofs.Endpoint.Writing
import StubServer.Proofs.Endpoint.Compilation
import StubServer.Proofs.Http.QueryText
import StubServer.Proofs.Http.QueryPairs
import StubServer.Proofs.Route.Supersets
import StubServer.Proofs.Config.Validation
import StubServer.Proofs.Config.Merging
import StubServer.Proofs.Net.AddressText
import StubServer.Proofs.Config.Reading
import StubServer.Proofs.Config.Strictness
import StubServer.Proofs.Config.RoundTrip
import StubServer.Proofs.History.Log
import StubServer.Proofs.History.Timestamps
import StubServer.Proofs.Template.Agreement
import StubServer.Proofs.Endpoint.Stages
import StubServer.Proofs.Template.Inclusions
import StubServer.Proofs.Endpoint.OwnTemplates
import StubServer.Proofs.Server.Reception
import StubServer.Proofs.Server.AdminPaths
import StubServer.Proofs.Server.Traffic
import StubServer.Proofs.Server.Reload
import StubServer.Proofs.Server.Checks
import StubServer.Proofs.Server.Validity
import StubServer.Proofs.Server.Steady
import StubServer.Proofs.Server.Isolation
import StubServer.Proofs.Server.Labels
import StubServer.Proofs.Server.Accounting
import StubServer.Proofs.Server.Interference
import StubServer.Proofs.Server.Records
import StubServer.Proofs.Server.TwoSteps
import StubServer.Proofs.Server.AdminRoutes
import StubServer.Proofs.Server.HistoryRoutes
import StubServer.Proofs.Server.Failures
