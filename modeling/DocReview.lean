import DocReview.Number.Shortest
import DocReview.Text.Blank
import DocReview.Text.Lines
import DocReview.Text.Quoted
import DocReview.Text.LetterCase
import DocReview.Text.CharName
import DocReview.Source.Program
import DocReview.Source.Printer
import DocReview.Definition.Record
import DocReview.Disk
import DocReview.Json.Writer
import DocReview.Json.Reader
import DocReview.Fault
import DocReview.Value.Access
import DocReview.Value.Arithmetic
import DocReview.Path
import DocReview.Scan
import DocReview.Coverage.Basic
import DocReview.Coverage.Functions
import DocReview.Report.Rows
import DocReview.Report.Store
import DocReview.Table.Columns
import DocReview.Issue
import DocReview.Search
import DocReview.TestRun
import DocReview.Sample
import DocReview.Suggestion.Style
import DocReview.Suggestion.Insertion
import DocReview.Session
import DocReview.Environment.Load
import DocReview.Database.Setup
import DocReview.Chat
import DocReview.Explorer
import DocReview.Review.Sidebar
import DocReview.Review.Proposal
import DocReview.Review.TestPanel
import DocReview.Table.Csv
import DocReview.Review.App
import DocReview.Proofs.Scan.Selection
import DocReview.Proofs.Review.Calm
import DocReview.Proofs.Review.Consistency
import DocReview.Proofs.Review.Suggestions
import DocReview.Proofs.Source.Alike
import DocReview.Proofs.Source.Expressions
import DocReview.Proofs.Source.Lexeme
import DocReview.Proofs.Source.Lexing
import DocReview.Proofs.Source.Run
import DocReview.Proofs.Source.Patterns
import DocReview.Proofs.Source.Statements
import DocReview.Proofs.Source.Program
import DocReview.Proofs.Source.Lone
import DocReview.Proofs.Source.Splice
import DocReview.Proofs.Coverage.Account
import DocReview.Proofs.Source.Defined
import DocReview.Proofs.Definition.Enumeration
import DocReview.Proofs.Suggestion.Content
import DocReview.Proofs.Report.Stored
import DocReview.Proofs.Scan.Held
import DocReview.Proofs.Suggestion.Layout
import DocReview.Proofs.Review.Panels
import DocReview.Proofs.Review.Survival
import DocReview.Proofs.Text.Lines
import DocReview.Proofs.Source.Columns
import DocReview.Proofs.Source.Insert
import DocReview.Proofs.Suggestion.Inserted
import DocReview.Proofs.Suggestion.Acceptance
import DocReview.Proofs.Environment.Consumption
import DocReview.Proofs.Environment.Spelling
import DocReview.Proofs.Environment.Loading
import DocReview.Proofs.Report.Export
import DocReview.Proofs.Json.Escapes
import DocReview.Proofs.Json.RoundTrip
import DocReview.Proofs.Json.Numbers
import DocReview.Proofs.Report.Recall
import DocReview.Proofs.Definition.Decisions
import DocReview.Proofs.Text.Joined
import DocReview.Proofs.Suggestion.Effect
import DocReview.Proofs.Source.Position
import DocReview.Proofs.Suggestion.Placement
import DocReview.Proofs.Definition.Nesting
import DocReview.Proofs.Value
import DocReview.Proofs.Issue.Blocks
import DocReview.Proofs.Issue.Severity
import DocReview.Proofs.TestRun.Grouping
import DocReview.Proofs.Review.Failures
import DocReview.Proofs.Source.Scopes
import DocReview.Proofs.Suggestion.Agreement
import DocReview.Proofs.Definition.Contents
import DocReview.Proofs.Source.Names
import DocReview.Proofs.Suggestion.Reading
import DocReview.Proofs.Suggestion.Sections
import DocReview.Proofs.Suggestion.Entries
import DocReview.Proofs.Table.Numbering
import DocReview.Proofs.Environment.Quoting
import DocReview.Proofs.Text.Lowering
import DocReview.Proofs.Search
import DocReview.Proofs.Definition.Methods
import DocReview.Proofs.Definition.Imports
import DocReview.Proofs.Coverage.Functions
import DocReview.Proofs.Environment.Splitting
