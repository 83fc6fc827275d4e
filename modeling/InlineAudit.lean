import InlineAudit.Text.Symbol
import InlineAudit.Text.Blank
import InlineAudit.Text.Word
import InlineAudit.Text.Lower
import InlineAudit.Text.Quoted
import InlineAudit.Text.Lines
import InlineAudit.Text.CellTable
import InlineAudit.Detect.Ledger
import InlineAudit.Detect.Directive
import InlineAudit.Detect.Findings
import InlineAudit.Git.Diff
import InlineAudit.Language
import InlineAudit.Report
import InlineAudit.Files.Node
import InlineAudit.Files.System
import InlineAudit.Ignore.Expression
import InlineAudit.Ignore.ExpressionReader
import InlineAudit.Ignore.Line
import InlineAudit.Walk
import InlineAudit.Audit
import InlineAudit.Log.Logger
import InlineAudit.Browser
import InlineAudit.Report.Document
import InlineAudit.Report.Sarif
import InlineAudit.Report.Tree
import InlineAudit.Report.TreeText
import InlineAudit.Yaml.Input
import InlineAudit.Yaml.Scalar
import InlineAudit.Yaml.Properties
import InlineAudit.Yaml.TokenQueue
import InlineAudit.Yaml.Node
import InlineAudit.Settings
import InlineAudit.Settings.File
import InlineAudit.Command.Flag
import InlineAudit.Command.Options
import InlineAudit.Command.Program
import InlineAudit.Text.Shortest
import InlineAudit.Tools.Argument
import InlineAudit.Tools.Reply
import InlineAudit.Log.Clock
import InlineAudit.Main
import InlineAudit.Proofs.Text.Utf8
import InlineAudit.Proofs.Text.Lower
import InlineAudit.Proofs.Detect.Pattern
import InlineAudit.Proofs.Detect.Shape
import InlineAudit.Proofs.Detect.Marker
import InlineAudit.Proofs.Detect.Ownership
import InlineAudit.Proofs.Detect.Order
import InlineAudit.Proofs.Detect.Literal
import InlineAudit.Proofs.Detect.MarkerLine
import InlineAudit.Proofs.Detect.Annotation
import InlineAudit.Proofs.Detect.Attribution
import InlineAudit.Proofs.Detect.Inspection
import InlineAudit.Proofs.Audit.Pool
import InlineAudit.Proofs.Audit.Schedule
import InlineAudit.Proofs.Audit.Counters
import InlineAudit.Proofs.Audit.Conservation
import InlineAudit.Proofs.Audit.Logging
import InlineAudit.Proofs.Audit.Turns
import InlineAudit.Proofs.Lists
import InlineAudit.Proofs.Path
import InlineAudit.Proofs.Report.Insertion
import InlineAudit.Proofs.Report.Tidy
import InlineAudit.Proofs.Report.Rows
import InlineAudit.Proofs.Report.Outline
import InlineAudit.Proofs.Files.Place
import InlineAudit.Proofs.Files.System
import InlineAudit.Proofs.Walk
import InlineAudit.Proofs.Scan
import InlineAudit.Proofs.Detect.Reference
import InlineAudit.Proofs.Detect.Prepending
import InlineAudit.Proofs.Detect.Numbering
import InlineAudit.Proofs.Detect.StrayBytes
import InlineAudit.Proofs.Tools.Buffer
import InlineAudit.Proofs.Command.Words
import InlineAudit.Proofs.Command.ScanLine
import InlineAudit.Proofs.Command.Stages
import InlineAudit.Proofs.Command.Findings
import InlineAudit.Proofs.Tools.Agreement
import InlineAudit.Proofs.Text.Returns
import InlineAudit.Proofs.Detect.LineEnds
import InlineAudit.Proofs.Detect.Keys
import InlineAudit.Proofs.Detect.Consistency
import InlineAudit.Proofs.Text.Fields
import InlineAudit.Proofs.Git.Diff
import InlineAudit.Proofs.Git.Changes
import InlineAudit.Proofs.Browser
import InlineAudit.Proofs.Json.Grammar
import InlineAudit.Proofs.Command.Outcome
import InlineAudit.Proofs.Json.Written
import InlineAudit.Proofs.Report.Document
import InlineAudit.Proofs.Report.Sarif
import InlineAudit.Proofs.Audit.Restriction
import InlineAudit.Proofs.Exclusion
import InlineAudit.Proofs.Report.Obstruction
import InlineAudit.Proofs.Report.Printing
import InlineAudit.Proofs.Report.Interleaving
import InlineAudit.Proofs.Detect.Stripping
import InlineAudit.Proofs.Detect.Rereading
import InlineAudit.Proofs.Detect.LineComment
import InlineAudit.Proofs.Detect.ReportLine
import InlineAudit.Proofs.Text.Spacing
import InlineAudit.Proofs.Git.Numstat
import InlineAudit.Proofs.Yaml.Reading
import InlineAudit.Proofs.Yaml.Settled
import InlineAudit.Proofs.Settings.Layer
import InlineAudit.Proofs.Settings.Resolution
