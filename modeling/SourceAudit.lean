import SourceAudit.Audit.Error
import SourceAudit.Audit.Fetches
import SourceAudit.Audit.Run
import SourceAudit.Command.Audit
import SourceAudit.Command.History
import SourceAudit.Command.Host
import SourceAudit.Command.Init
import SourceAudit.Command.Policy
import SourceAudit.CommandLine.Arguments
import SourceAudit.CommandLine.Help
import SourceAudit.CommandLine.Parse
import SourceAudit.CommandLine.Usage
import SourceAudit.CommandLine.Words
import SourceAudit.Decimal.Bound
import SourceAudit.Decimal.Fixed
import SourceAudit.Decimal.Scaled
import SourceAudit.ExitStatus
import SourceAudit.Files.Basic
import SourceAudit.Files.Path
import SourceAudit.Files.Tree
import SourceAudit.Finding
import SourceAudit.Glob.Basic
import SourceAudit.Glob.Expression
import SourceAudit.Glob.Match
import SourceAudit.Glob.Parser
import SourceAudit.Glob.Test
import SourceAudit.Identity
import SourceAudit.Instant
import SourceAudit.Json.Basic
import SourceAudit.Json.Fields
import SourceAudit.Json.Parser
import SourceAudit.Json.Printer
import SourceAudit.Line.Code
import SourceAudit.Line.Literal
import SourceAudit.Line.Import
import SourceAudit.Line.Marker
import SourceAudit.Line.StandardModule
import SourceAudit.Manifest
import SourceAudit.NameSet
import SourceAudit.Pattern.Basic
import SourceAudit.Pattern.Build
import SourceAudit.Policy
import SourceAudit.Program
import SourceAudit.Provider.Basic
import SourceAudit.Provider.Local
import SourceAudit.Provider.Remote
import SourceAudit.Report.Basic
import SourceAudit.Report.Json
import SourceAudit.Report.Markdown
import SourceAudit.Report.Terminal
import SourceAudit.Rule.Basic
import SourceAudit.Rule.Catalogue
import SourceAudit.Rule.Import
import SourceAudit.Rule.Network
import SourceAudit.Rule.Quality
import SourceAudit.Rule.Security
import SourceAudit.Rule.Stub
import SourceAudit.Rule.Style
import SourceAudit.Scan
import SourceAudit.Settings.Basic
import SourceAudit.Settings.Document
import SourceAudit.Settings.Load
import SourceAudit.Sha256
import SourceAudit.Store.Basic
import SourceAudit.Store.Document
import SourceAudit.Store.Gateway
import SourceAudit.Store.Record
import SourceAudit.Store.Validation
import SourceAudit.Target
import SourceAudit.Text.Number
import SourceAudit.Text.Blank
import SourceAudit.Text.Case
import SourceAudit.Text.Charset
import SourceAudit.Text.Composition
import SourceAudit.Text.Direction
import SourceAudit.Text.Joining
import SourceAudit.Text.Lines
import SourceAudit.Text.Mark
import SourceAudit.Text.Reader
import SourceAudit.Text.Style
import SourceAudit.Text.Utf8
import SourceAudit.Text.Word
import SourceAudit.Toml.Basic
import SourceAudit.Toml.Number
import SourceAudit.Toml.Parser
import SourceAudit.Toml.Printer
import SourceAudit.Toml.Quoted
import SourceAudit.Url.Address
import SourceAudit.Url.Basic
import SourceAudit.Url.Domain
import SourceAudit.Url.Domain.Mapping
import SourceAudit.Url.Foreign
import SourceAudit.Url.Percent
import SourceAudit.Url.Punycode
import SourceAudit.Walk
import SourceAudit.Main
import SourceAudit.Proofs.Dialogue.Basic
import SourceAudit.Proofs.Dialogue.Conduct
import SourceAudit.Proofs.Dialogue.Audit
import SourceAudit.Proofs.Dialogue.Fetches
import SourceAudit.Proofs.Audit.Examination
import SourceAudit.Proofs.Audit.Protocol
import SourceAudit.Proofs.Walk.Queue
import SourceAudit.Proofs.Audit.Discipline
import SourceAudit.Proofs.Audit.Kept
import SourceAudit.Proofs.Sharing.Agreement
import SourceAudit.Proofs.Sharing.Reports
import SourceAudit.Proofs.Store.Integrity
import SourceAudit.Proofs.Store.Lifecycle
import SourceAudit.Proofs.Store.Backends
import SourceAudit.Proofs.Store.Crash
import SourceAudit.Proofs.Audit.Accounting
import SourceAudit.Proofs.Audit.Listing
import SourceAudit.Proofs.Audit.Truncation
import SourceAudit.Proofs.Dialogue.Sequence
import SourceAudit.Proofs.Audit.Concurrency
import SourceAudit.Proofs.Program.Status
import SourceAudit.Proofs.Walk.LevelOrder
import SourceAudit.Proofs.Store.Distinct
import SourceAudit.Proofs.Store.Mirror
import SourceAudit.Proofs.Provider.Request
import SourceAudit.Proofs.Scan.Configured
import SourceAudit.Proofs.Scan.Binary
import SourceAudit.Proofs.Provider.Checkout
import SourceAudit.Proofs.Walk.Bound
import SourceAudit.Proofs.Report.Presentation
import SourceAudit.Proofs.Policy.Parse
import SourceAudit.Proofs.Rule.Import
import SourceAudit.Proofs.Scan.Declared
import SourceAudit.Proofs.Walk.Exclude
import SourceAudit.Proofs.Audit.Exclude
import SourceAudit.Proofs.Provider.Lookup
import SourceAudit.Proofs.Text.Ascii
import SourceAudit.Proofs.Policy.Written
import SourceAudit.Proofs.Text.Pieces
import SourceAudit.Proofs.Line.Written
import SourceAudit.Proofs.Line.ReadBack
import SourceAudit.Proofs.Line.Compound
import SourceAudit.Proofs.Rule.Forbidden
import SourceAudit.Proofs.Pattern.Matching
import SourceAudit.Proofs.Scan.OnLine
import SourceAudit.Proofs.Rule.Evaluation
import SourceAudit.Proofs.Rule.Literal
import SourceAudit.Proofs.Rule.Duplicate
import SourceAudit.Proofs.Scan.Verdict
import SourceAudit.Proofs.Walk.Modules
import SourceAudit.Proofs.Rule.Network
import SourceAudit.Proofs.Rule.Terminators
import SourceAudit.Proofs.Rule.Quoted
import SourceAudit.Proofs.Rule.Indentation
import SourceAudit.Proofs.Files.Proper
import SourceAudit.Proofs.Provider.Entry
import SourceAudit.Proofs.Walk.Checkout
import SourceAudit.Proofs.Audit.Checkout
import SourceAudit.Proofs.Store.Checkout
import SourceAudit.Proofs.Provider.Reference
import SourceAudit.Proofs.Rule.Commented
import SourceAudit.Proofs.Rule.LoopHeader
import SourceAudit.Proofs.Report.Table
import SourceAudit.Proofs.Command.History
import SourceAudit.Proofs.Provider.Authorization
import SourceAudit.Proofs.Line.Lexeme
