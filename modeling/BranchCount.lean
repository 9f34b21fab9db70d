import BranchCount.Analysis.File
import BranchCount.Analysis.Result
import BranchCount.Analysis.Source
import BranchCount.Codec.Record
import BranchCount.Codec.Rules
import BranchCount.Codec.Value
import BranchCount.Comparison
import BranchCount.Contribution
import BranchCount.Counting
import BranchCount.Decimal.Binary
import BranchCount.Decimal.Fixed
import BranchCount.Decimal.Shortest
import BranchCount.Discovery
import BranchCount.Files.Path
import BranchCount.Files.Tree
import BranchCount.Grammar.Cursor
import BranchCount.Grammar.Expression
import BranchCount.Grammar.Formatted
import BranchCount.Grammar.Pattern
import BranchCount.Grammar.Statement
import BranchCount.Json.Basic
import BranchCount.Json.Decode
import BranchCount.Json.Fault
import BranchCount.Json.Reader
import BranchCount.Log
import BranchCount.Main
import BranchCount.Metrics
import BranchCount.Program.CommandLine
import BranchCount.Program.Reports
import BranchCount.Program.Run
import BranchCount.Proofs.Ancestors
import BranchCount.Proofs.BooleanChains
import BranchCount.Proofs.Breakdown
import BranchCount.Proofs.BrokenOverrides
import BranchCount.Proofs.Comparison
import BranchCount.Proofs.Conservation
import BranchCount.Proofs.ContributionLines
import BranchCount.Proofs.Definitions
import BranchCount.Proofs.EnclosingFunction
import BranchCount.Proofs.Failures
import BranchCount.Proofs.Filtering
import BranchCount.Proofs.JsonForms
import BranchCount.Proofs.JsonGrammar
import BranchCount.Proofs.JsonReading
import BranchCount.Proofs.JsonRecords
import BranchCount.Proofs.JsonSoundness
import BranchCount.Proofs.JsonText
import BranchCount.Proofs.JsonUnambiguous
import BranchCount.Proofs.Layering
import BranchCount.Proofs.LineLookup
import BranchCount.Proofs.Lines
import BranchCount.Proofs.NestedDefinitions
import BranchCount.Proofs.Nodes
import BranchCount.Proofs.OverrideForms
import BranchCount.Proofs.Overrides
import BranchCount.Proofs.Paths
import BranchCount.Proofs.PlainReports
import BranchCount.Proofs.Positions
import BranchCount.Proofs.Prepending
import BranchCount.Proofs.RecordInvariant
import BranchCount.Proofs.Relabelling
import BranchCount.Proofs.ReportText
import BranchCount.Proofs.RoundTrip
import BranchCount.Proofs.SourceOrder
import BranchCount.Proofs.Spelling
import BranchCount.Proofs.TextBytes
import BranchCount.Proofs.Thresholds
import BranchCount.Proofs.Weights
import BranchCount.Proofs.WireLine
import BranchCount.Proofs.WriteFailures
import BranchCount.Proofs.Writers
import BranchCount.Report.Detailed
import BranchCount.Report.Layout
import BranchCount.Report.SideBySide
import BranchCount.Report.Sink
import BranchCount.Report.Style
import BranchCount.Report.Wire
import BranchCount.Rules.Basic
import BranchCount.Rules.Preset
import BranchCount.Rules.Resolution
import BranchCount.Source.LineTable
import BranchCount.Source.Range
import BranchCount.Syntax
import BranchCount.Text.Blank
import BranchCount.Text.Bytes
import BranchCount.Text.CharacterNames
import BranchCount.Text.Emoji
import BranchCount.Text.Identifier
import BranchCount.Text.NameTable
import BranchCount.Text.Quoted
import BranchCount.Text.Ranges
import BranchCount.Text.Width
import BranchCount.Token.Basic
import BranchCount.Token.Lexer
import BranchCount.Token.Number
import BranchCount.Token.Soft
