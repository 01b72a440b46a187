import MoveAudit.Act
import MoveAudit.Analysis.Office
import MoveAudit.Analysis.Progress
import MoveAudit.Analysis.Stage
import MoveAudit.Cache.Pool
import MoveAudit.Cache.Results
import MoveAudit.Cache.Store
import MoveAudit.Capability.Report
import MoveAudit.Capability.Usage
import MoveAudit.Card.Basic
import MoveAudit.Chain.Call
import MoveAudit.Chain.Ledger
import MoveAudit.Chain.Poll
import MoveAudit.Chain.Publication
import MoveAudit.Chain.Snapshot
import MoveAudit.Chain.Structs
import MoveAudit.CommandLine.Form
import MoveAudit.CommandLine.Scan
import MoveAudit.CommandLine.Serve
import MoveAudit.Config.Basic
import MoveAudit.Config.Environment
import MoveAudit.Console.Line
import MoveAudit.Console.Notice
import MoveAudit.Dependency.Risk
import MoveAudit.Entries
import MoveAudit.Journal.Book
import MoveAudit.Journal.Entry
import MoveAudit.Json.Reader
import MoveAudit.Json.Shape
import MoveAudit.Json.Shown
import MoveAudit.Json.Value
import MoveAudit.Json.Writer
import MoveAudit.Knowledge.Base
import MoveAudit.Knowledge.Bundled
import MoveAudit.Knowledge.Display
import MoveAudit.Knowledge.Rules
import MoveAudit.Listing.Basic
import MoveAudit.Main
import MoveAudit.Move.Descriptor
import MoveAudit.Move.Extraction
import MoveAudit.Move.Package
import MoveAudit.Move.Param
import MoveAudit.Number.Decimal
import MoveAudit.Number.Double
import MoveAudit.Number.Numeral
import MoveAudit.Proofs.Act
import MoveAudit.Proofs.Analysis.Course
import MoveAudit.Proofs.Analysis.Ends
import MoveAudit.Proofs.Analysis.Keeping
import MoveAudit.Proofs.Analysis.Lanes
import MoveAudit.Proofs.Analysis.Library
import MoveAudit.Proofs.Analysis.Record
import MoveAudit.Proofs.Analysis.Shapes
import MoveAudit.Proofs.Analysis.Source
import MoveAudit.Proofs.Analysis.Standing
import MoveAudit.Proofs.Analysis.Telling
import MoveAudit.Proofs.Analysis.Verdict
import MoveAudit.Proofs.Cache.Agreement
import MoveAudit.Proofs.Cache.Glob
import MoveAudit.Proofs.Cache.Kept
import MoveAudit.Proofs.Cache.Latest
import MoveAudit.Proofs.Cache.Returned
import MoveAudit.Proofs.Cache.Shared
import MoveAudit.Proofs.Capability.Definitions
import MoveAudit.Proofs.Capability.Flows
import MoveAudit.Proofs.Capability.Grounds
import MoveAudit.Proofs.Capability.Growth
import MoveAudit.Proofs.Card.Document
import MoveAudit.Proofs.Chain.Call
import MoveAudit.Proofs.Chain.Poll
import MoveAudit.Proofs.Chain.Publication
import MoveAudit.Proofs.Chain.Resting
import MoveAudit.Proofs.Chain.Structs
import MoveAudit.Proofs.Config.Overrides
import MoveAudit.Proofs.Dependency.Risk
import MoveAudit.Proofs.Entries
import MoveAudit.Proofs.Entries.First
import MoveAudit.Proofs.Journal.Book
import MoveAudit.Proofs.Journal.Reference
import MoveAudit.Proofs.Journal.Updates
import MoveAudit.Proofs.Json.Cut
import MoveAudit.Proofs.Json.Marks
import MoveAudit.Proofs.Json.Number
import MoveAudit.Proofs.Json.Plain
import MoveAudit.Proofs.Json.RoundTrip
import MoveAudit.Proofs.Json.Spelling
import MoveAudit.Proofs.Json.Steps
import MoveAudit.Proofs.Json.Strings
import MoveAudit.Proofs.Knowledge.Accepted
import MoveAudit.Proofs.Knowledge.Aliases
import MoveAudit.Proofs.Knowledge.Lookup
import MoveAudit.Proofs.Knowledge.Refusal
import MoveAudit.Proofs.Knowledge.Sound
import MoveAudit.Proofs.Listing.Bodies
import MoveAudit.Proofs.Listing.Header
import MoveAudit.Proofs.Listing.Import
import MoveAudit.Proofs.Listing.Lead
import MoveAudit.Proofs.Move.Address
import MoveAudit.Proofs.Move.Dependencies
import MoveAudit.Proofs.Move.Extraction
import MoveAudit.Proofs.Move.Overlooked
import MoveAudit.Proofs.Move.Part
import MoveAudit.Proofs.Move.Readable
import MoveAudit.Proofs.Move.Skipping
import MoveAudit.Proofs.Move.TypeArguments
import MoveAudit.Proofs.Move.Types
import MoveAudit.Proofs.Number.Decimal
import MoveAudit.Proofs.Number.Layout
import MoveAudit.Proofs.Number.Rounding
import MoveAudit.Proofs.Pool.Cancelling
import MoveAudit.Proofs.Pool.Moves
import MoveAudit.Proofs.Pool.Order
import MoveAudit.Proofs.Pool.Sharing
import MoveAudit.Proofs.Pool.Sound
import MoveAudit.Proofs.Reasoning.Attempts
import MoveAudit.Proofs.Reasoning.Call
import MoveAudit.Proofs.Reasoning.Reply
import MoveAudit.Proofs.Record.Fitting
import MoveAudit.Proofs.Record.Halting
import MoveAudit.Proofs.Risk.Evidence
import MoveAudit.Proofs.Risk.Review
import MoveAudit.Proofs.Scoring.Growth
import MoveAudit.Proofs.Scoring.Mention
import MoveAudit.Proofs.Scoring.Notes
import MoveAudit.Proofs.Scoring.Order
import MoveAudit.Proofs.Scoring.Rules
import MoveAudit.Proofs.Service.Audits
import MoveAudit.Proofs.Service.Crowd
import MoveAudit.Proofs.Service.Feed
import MoveAudit.Proofs.Service.Requests
import MoveAudit.Proofs.Service.Spelling
import MoveAudit.Proofs.Static.Findings
import MoveAudit.Proofs.Text.Alike
import MoveAudit.Proofs.Text.Blank
import MoveAudit.Proofs.Text.Capital
import MoveAudit.Proofs.Text.Case
import MoveAudit.Proofs.Text.Count
import MoveAudit.Proofs.Text.Lines
import MoveAudit.Proofs.Text.Runs
import MoveAudit.Proofs.Text.Search
import MoveAudit.Proofs.Text.Small
import MoveAudit.Proofs.Text.Squeeze
import MoveAudit.Reasoning.Call
import MoveAudit.Reasoning.Prompt
import MoveAudit.Reasoning.Reasoner
import MoveAudit.Reasoning.Reply
import MoveAudit.Record.Check
import MoveAudit.Risk.Evidence
import MoveAudit.Risk.Finding
import MoveAudit.Risk.Severity
import MoveAudit.Scoring.Mention
import MoveAudit.Scoring.Score
import MoveAudit.Service.Audit
import MoveAudit.Service.Crowd
import MoveAudit.Service.Feed
import MoveAudit.Service.Plan
import MoveAudit.Static.Catalogue
import MoveAudit.Static.Pattern
import MoveAudit.Static.Report
import MoveAudit.Static.Trace
import MoveAudit.Text.Basic
import MoveAudit.Text.Case
import MoveAudit.Text.CaseTable
import MoveAudit.Text.PrintableTable
import MoveAudit.Text.Search
import MoveAudit.Text.WordTable
import MoveAudit.Web.Answer
import MoveAudit.Web.Request
import MoveAudit.Yaml.Reader
import MoveAudit.Yaml.Scalar
