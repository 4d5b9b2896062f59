import SchemaHistory.Command.Analyze
import SchemaHistory.Command.Basic
import SchemaHistory.Command.Consolidate
import SchemaHistory.Command.Reconcile
import SchemaHistory.Command.Rules
import SchemaHistory.CommandLine.Help
import SchemaHistory.CommandLine.Request
import SchemaHistory.CommandLine.Run
import SchemaHistory.Config.Basic
import SchemaHistory.Config.File
import SchemaHistory.Config.Reader
import SchemaHistory.Failure
import SchemaHistory.FileSystem.Basic
import SchemaHistory.FileSystem.Change
import SchemaHistory.FileSystem.Error
import SchemaHistory.History.Basic
import SchemaHistory.History.Record
import SchemaHistory.Json.Basic
import SchemaHistory.Json.Printer
import SchemaHistory.Json.Reader
import SchemaHistory.Json.Record
import SchemaHistory.Main
import SchemaHistory.Migration.Backup
import SchemaHistory.Migration.Folder
import SchemaHistory.Path
import SchemaHistory.Pattern.Basic
import SchemaHistory.Pattern.Bracket
import SchemaHistory.Pattern.Cursor
import SchemaHistory.Pattern.Escape
import SchemaHistory.Pattern.Match
import SchemaHistory.Pattern.Reader
import SchemaHistory.Pattern.Size
import SchemaHistory.Policy.Basic
import SchemaHistory.Policy.File
import SchemaHistory.Reconciliation
import SchemaHistory.Redundancy
import SchemaHistory.Report.Basic
import SchemaHistory.Report.Writer
import SchemaHistory.Session
import SchemaHistory.Shell.Command
import SchemaHistory.Shell.File
import SchemaHistory.Shell.Run
import SchemaHistory.Shell.State
import SchemaHistory.Shell.Text
import SchemaHistory.Shell.Token
import SchemaHistory.Sql.Normal
import SchemaHistory.Sql.Script
import SchemaHistory.Sql.Target
import SchemaHistory.Statement.Basic
import SchemaHistory.Statement.Record
import SchemaHistory.Summary
import SchemaHistory.Text.Blank
import SchemaHistory.Text.Bytes
import SchemaHistory.Text.CaseFolding
import SchemaHistory.Text.CaseRun
import SchemaHistory.Text.Category
import SchemaHistory.Text.CharSet
import SchemaHistory.Text.Lowercase
import SchemaHistory.Text.Property
import SchemaHistory.Text.Script
import SchemaHistory.Text.Table
import SchemaHistory.Text.Uppercase
import SchemaHistory.Timestamp
import SchemaHistory.Tool.Basic
import SchemaHistory.Yaml.Layout
import SchemaHistory.Yaml.Node
import SchemaHistory.Yaml.Place
import SchemaHistory.Yaml.Record
import SchemaHistory.Yaml.Scalar
import SchemaHistory.Yaml.Token
import SchemaHistory.Proofs.Marking
import SchemaHistory.Proofs.Redundancy.Nearest
import SchemaHistory.Proofs.Redundancy.Pass
import SchemaHistory.Proofs.Redundancy.Resolved
import SchemaHistory.Proofs.Accounting
import SchemaHistory.Proofs.Extraction
import SchemaHistory.Proofs.Stage
import SchemaHistory.Proofs.Outcome
import SchemaHistory.Proofs.Redundancy.Citation
import SchemaHistory.Proofs.Text.Mark
import SchemaHistory.Proofs.Text.Pieces
import SchemaHistory.Proofs.Script.Comment
import SchemaHistory.Proofs.Text.Trim
import SchemaHistory.Proofs.Script.LineComment
import SchemaHistory.Proofs.Script.Terminator
import SchemaHistory.Proofs.Script.Plain
import SchemaHistory.Proofs.Script.Extracted
import SchemaHistory.Proofs.Report.MissingText
import SchemaHistory.Proofs.Target.Word
import SchemaHistory.Proofs.Target.Verb
import SchemaHistory.Proofs.Target.Name
import SchemaHistory.Proofs.Target.Clause
import SchemaHistory.Proofs.Target.ClauseWord
import SchemaHistory.Proofs.Target.LeadingName
import SchemaHistory.Proofs.Redundancy.FalsePair
import SchemaHistory.Proofs.Action
import SchemaHistory.Proofs.Files.Entry
import SchemaHistory.Proofs.Files.Change
import SchemaHistory.Proofs.Files.Content
import SchemaHistory.Proofs.Files.Walk
import SchemaHistory.Proofs.Files.WellFormed
import SchemaHistory.Proofs.Files.Unlinked
import SchemaHistory.Proofs.Files.Parent
import SchemaHistory.Proofs.Migration.Listing
import SchemaHistory.Proofs.Migration.Reading
import SchemaHistory.Proofs.Migration.Moving
import SchemaHistory.Proofs.Report.Writing
import SchemaHistory.Proofs.Consolidation.Order
import SchemaHistory.Proofs.Consolidation.Course
import SchemaHistory.Proofs.Consolidation.Rereading
import SchemaHistory.Proofs.Consolidation.Agreement
import SchemaHistory.Proofs.Redundancy.Soundness
import SchemaHistory.Proofs.Idempotence
import SchemaHistory.Proofs.Growth
import SchemaHistory.Proofs.Files.Leads
import SchemaHistory.Proofs.Migration.Refusal
import SchemaHistory.Proofs.Json.Scalar
import SchemaHistory.Proofs.Json.Spelling
import SchemaHistory.Proofs.Json.RoundTrip
import SchemaHistory.Proofs.Json.Record
import SchemaHistory.Proofs.Reloading
import SchemaHistory.Proofs.Report.FilteredText
import SchemaHistory.Proofs.Script.Junction
import SchemaHistory.Proofs.Joining
import SchemaHistory.Proofs.Reconciling
import SchemaHistory.Proofs.Interchange
import SchemaHistory.Proofs.Script.Span
import SchemaHistory.Proofs.Target.Condensed
import SchemaHistory.Proofs.Target.Normal
import SchemaHistory.Proofs.Target.Written
import SchemaHistory.Proofs.Target.Shape
import SchemaHistory.Proofs.Text.Lower
import SchemaHistory.Proofs.Text.Worded
import SchemaHistory.Proofs.Equivalence
import SchemaHistory.Proofs.Script.BlockComment
import SchemaHistory.Proofs.Script.Code
import SchemaHistory.Proofs.Script.LineEnding
import SchemaHistory.Proofs.Script.Conserved
import SchemaHistory.Proofs.Converting
import SchemaHistory.Proofs.Policy.FirstMatch
import SchemaHistory.Proofs.ProjectRoot
import SchemaHistory.Proofs.Pattern.Found
import SchemaHistory.Proofs.Text.Folding
import SchemaHistory.Proofs.Text.Ranges
import SchemaHistory.Proofs.Pattern.Literal
import SchemaHistory.Proofs.Policy.Word
import SchemaHistory.Proofs.Files.Made
import SchemaHistory.Proofs.Files.Copied
import SchemaHistory.Proofs.Migration.Conserving
import SchemaHistory.Proofs.Occurrence
import SchemaHistory.Proofs.Separation
import SchemaHistory.Proofs.Files.Placed
import SchemaHistory.Proofs.Report.Replacing
import SchemaHistory.Proofs.Files.Relisted
import SchemaHistory.Proofs.Migration.Enumeration
