import JobMatrix.App.Archive
import JobMatrix.App.Engine
import JobMatrix.App.Preview
import JobMatrix.App.Printed
import JobMatrix.App.Program
import JobMatrix.App.Session
import JobMatrix.App.World
import JobMatrix.Binding
import JobMatrix.CommandLine.Arguments
import JobMatrix.CommandLine.Command
import JobMatrix.CommandLine.Usage
import JobMatrix.Condition.Basic
import JobMatrix.Condition.Parser
import JobMatrix.Condition.Printer
import JobMatrix.Condition.Token
import JobMatrix.Decimal.Binary64
import JobMatrix.Decimal.Layout
import JobMatrix.Decimal.Rounding
import JobMatrix.Decimal.Shortest
import JobMatrix.Definition.Basic
import JobMatrix.Definition.Fault
import JobMatrix.Definition.Loading
import JobMatrix.Definition.Reading
import JobMatrix.Definition.Source
import JobMatrix.Env
import JobMatrix.Files
import JobMatrix.History.Ephemeral
import JobMatrix.History.Place
import JobMatrix.History.Store
import JobMatrix.History.Summary
import JobMatrix.History.Table
import JobMatrix.Job.Command
import JobMatrix.Job.Progress
import JobMatrix.Job.Result
import JobMatrix.Main
import JobMatrix.Path
import JobMatrix.Pipeline
import JobMatrix.Placeholder
import JobMatrix.Proofs.Run.Move
import JobMatrix.Report.Console
import JobMatrix.Report.Decoding
import JobMatrix.Report.Document
import JobMatrix.Report.Encoding
import JobMatrix.Report.Line
import JobMatrix.Report.Style
import JobMatrix.Run.Event
import JobMatrix.Run.Result
import JobMatrix.Run.Script
import JobMatrix.Run.State
import JobMatrix.Run.Strategy
import JobMatrix.Run.Timeline
import JobMatrix.RunId
import JobMatrix.Shell.Arithmetic
import JobMatrix.Shell.Builtin
import JobMatrix.Shell.Evaluation
import JobMatrix.Shell.Expansion
import JobMatrix.Shell.Filter
import JobMatrix.Shell.Format
import JobMatrix.Shell.Host
import JobMatrix.Shell.Machine
import JobMatrix.Shell.Options
import JobMatrix.Shell.Pattern
import JobMatrix.Shell.Reader
import JobMatrix.Shell.Regex
import JobMatrix.Shell.Scene
import JobMatrix.Shell.Script
import JobMatrix.Shell.Signal
import JobMatrix.Shell.Token
import JobMatrix.Shell.Utility
import JobMatrix.Template
import JobMatrix.Text.Blank
import JobMatrix.Text.Digit
import JobMatrix.Text.Lines
import JobMatrix.Text.Quoted
import JobMatrix.Text.ShownByNumber
import JobMatrix.Text.Utf8
import JobMatrix.Time.Calendar
import JobMatrix.Time.Duration
import JobMatrix.Time.Timestamp
import JobMatrix.Word
import JobMatrix.Yaml.Cursor
import JobMatrix.Yaml.Node
import JobMatrix.Yaml.Reading
import JobMatrix.Yaml.Resolution
import JobMatrix.Yaml.Scalar
import JobMatrix.Yaml.Token
import JobMatrix.Yaml.Value
import JobMatrix.Proofs.Run.Trace
import JobMatrix.Proofs.Job.Records
import JobMatrix.Proofs.Run.Account
import JobMatrix.Proofs.Run.Stream
import JobMatrix.Proofs.Run.Entries
import JobMatrix.Proofs.Definition.Loaded
import JobMatrix.Proofs.Run.Course
import JobMatrix.Proofs.Job.Clean
import JobMatrix.Proofs.Job.Outcome
import JobMatrix.Proofs.Run.Verdict
import JobMatrix.Proofs.Run.Cancellation
import JobMatrix.Proofs.Run.Slots
import JobMatrix.Proofs.Job.Alone
import JobMatrix.Proofs.Run.Served
import JobMatrix.Proofs.Run.Progress
import JobMatrix.Proofs.Run.Isolation
import JobMatrix.Proofs.Job.Request
import JobMatrix.Proofs.Run.Dispatch
import JobMatrix.Proofs.Run.Capacity
import JobMatrix.Proofs.Run.Plan
import JobMatrix.Proofs.Run.Log
import JobMatrix.Proofs.Run.Executor
import JobMatrix.Proofs.Definition.Valid
import JobMatrix.Proofs.Definition.Acceptance
import JobMatrix.Proofs.Definition.Bound
import JobMatrix.Proofs.Job.Environment
import JobMatrix.Proofs.Run.Calls
import JobMatrix.Proofs.Run.Views
import JobMatrix.Proofs.Definition.Ascending
import JobMatrix.Proofs.Run.Requests
import JobMatrix.Proofs.Condition.Grammar
import JobMatrix.Proofs.Condition.Parsing
import JobMatrix.Proofs.Condition.Lexing
import JobMatrix.Proofs.Condition.Roundtrip
import JobMatrix.Proofs.Time.Calendar
import JobMatrix.Proofs.Time.Digits
import JobMatrix.Proofs.Time.Text
import JobMatrix.Proofs.Report.Roundtrip
import JobMatrix.Proofs.History.Index
import JobMatrix.Proofs.History.Table
import JobMatrix.Proofs.History.Agreement
import JobMatrix.Proofs.History.Keeping
import JobMatrix.Proofs.Pipeline.Expansion
import JobMatrix.Proofs.App.Loading
import JobMatrix.Proofs.App.Session
import JobMatrix.Proofs.App.Documents
import JobMatrix.Proofs.Placeholder.Splitting
import JobMatrix.Proofs.Run.Tally
import JobMatrix.Proofs.Run.Ending
import JobMatrix.Proofs.Run.Playing
import JobMatrix.Proofs.App.Crash
import JobMatrix.Proofs.History.Selection
import JobMatrix.Proofs.Pipeline.Selection
import JobMatrix.Proofs.Definition.Identities
import JobMatrix.Proofs.Text.Lines
import JobMatrix.Proofs.Report.Console
import JobMatrix.Proofs.Run.Times
import JobMatrix.Proofs.App.Saving
import JobMatrix.Proofs.Condition.Refusal
import JobMatrix.Proofs.Job.Alike
