import TagScript.Command.Arguments
import TagScript.Command.Flag
import TagScript.Command.Grammar
import TagScript.Command.LogFlags
import TagScript.Command.Run
import TagScript.Command.Source
import TagScript.Config.File
import TagScript.Config.Settings
import TagScript.Console.Completion
import TagScript.Console.Editing
import TagScript.Console.Field
import TagScript.Console.History
import TagScript.Console.Match
import TagScript.Console.Screen
import TagScript.Console.Session
import TagScript.Console.Style
import TagScript.Console.Word
import TagScript.Decimal.Binary
import TagScript.Decimal.Integer
import TagScript.Decimal.Layout
import TagScript.Decimal.Numeral
import TagScript.Decimal.Power
import TagScript.Decimal.Shortest
import TagScript.Document.Basic
import TagScript.Document.Display
import TagScript.Document.Json
import TagScript.Document.JsonLayout
import TagScript.Document.Yaml.Numeral
import TagScript.Document.Yaml.Plain
import TagScript.Document.Yaml.Reader
import TagScript.Document.Yaml.Writer
import TagScript.Eval.Fault
import TagScript.Eval.Machine
import TagScript.Eval.Node
import TagScript.Eval.Result
import TagScript.Eval.Sink
import TagScript.Expression.Evaluate
import TagScript.Expression.Kind
import TagScript.Expression.Token
import TagScript.Expression.Tree
import TagScript.Failure
import TagScript.Files.Disk
import TagScript.Files.Path
import TagScript.Globals
import TagScript.Literal
import TagScript.Log.Level
import TagScript.Log.Line
import TagScript.Log.Logger
import TagScript.Log.Pretty
import TagScript.Log.Record
import TagScript.Log.Time
import TagScript.Main
import TagScript.Markup.Construction
import TagScript.Markup.Entity
import TagScript.Markup.Forest
import TagScript.Markup.Html
import TagScript.Markup.Reference
import TagScript.Markup.Render
import TagScript.Markup.Source
import TagScript.Markup.Token
import TagScript.Markup.Vocabulary
import TagScript.Proofs.Eval.CallProtocol
import TagScript.Proofs.Eval.Confinement
import TagScript.Proofs.Eval.Contract
import TagScript.Proofs.Eval.Coupling
import TagScript.Proofs.Eval.Noninterference
import TagScript.Proofs.Eval.Outcome
import TagScript.Proofs.Eval.Recording
import TagScript.Proofs.Eval.SinkProtocol
import TagScript.Proofs.Scope.Confined
import TagScript.Proofs.Scope.Reachable
import TagScript.Proofs.Scope.Twin
import TagScript.Proofs.Sink.Html
import TagScript.Proofs.Sink.Protocol
import TagScript.Proofs.Sink.Recording
import TagScript.Scope.Function
import TagScript.Scope.Table
import TagScript.Scope.Tree
import TagScript.Template
import TagScript.Template.Outline
import TagScript.Template.Printer
import TagScript.Text.Blank
import TagScript.Text.Case
import TagScript.Text.Cluster
import TagScript.Text.Letter
import TagScript.Text.Lines
import TagScript.Text.Octets
import TagScript.Text.Printable
import TagScript.Text.Quoted
import TagScript.Text.Ranges
import TagScript.Text.Width
import TagScript.Text.Writer
import TagScript.Value.Basic
import TagScript.Value.Normal
import TagScript.Value.Number
import TagScript.Value.Operator
import TagScript.Value.Text
import TagScript.Proofs.Eval.Policy
import TagScript.Proofs.Eval.Approximation
import TagScript.Proofs.Eval.Termination
import TagScript.Proofs.Eval.DepthGuard
import TagScript.Proofs.Eval.Faults
import TagScript.Proofs.Eval.Formula
import TagScript.Proofs.Scope.History
import TagScript.Proofs.Eval.Observers
import TagScript.Proofs.Markup.Forest
import TagScript.Proofs.Markup.Growth
import TagScript.Proofs.Markup.PassThrough
import TagScript.Proofs.Markup.Relocation
import TagScript.Proofs.Markup.Writing
import TagScript.Proofs.Console.Incremental
import TagScript.Proofs.Console.Bounds
import TagScript.Proofs.Console.Persistence
import TagScript.Proofs.Markup.Rooted
import TagScript.Proofs.Command.Initialize
import TagScript.Proofs.Eval.FailedOperation
import TagScript.Proofs.Eval.Conditional
import TagScript.Proofs.Sink.Leaves
import TagScript.Proofs.Eval.Loop
import TagScript.Proofs.Markup.Malformed
import TagScript.Proofs.Markup.Comments
import TagScript.Proofs.Value.Number
import TagScript.Proofs.Value.Literal
import TagScript.Proofs.Template.Reading
import TagScript.Proofs.Text.Octets
import TagScript.Proofs.Text.Width
import TagScript.Proofs.Console.Bar
import TagScript.Proofs.Log.Pieces
import TagScript.Proofs.Text.OneLine
import TagScript.Proofs.Console.Words
import TagScript.Proofs.Console.Field
import TagScript.Proofs.Console.Changes
import TagScript.Proofs.Console.Tags
import TagScript.Proofs.Console.Completing
import TagScript.Proofs.Console.Cycling
import TagScript.Proofs.Console.Submission
import TagScript.Proofs.Log.Attributes
import TagScript.Proofs.Log.OneLine
import TagScript.Proofs.Config.Resolution
import TagScript.Proofs.Failure.Derivation
import TagScript.Proofs.Command.Collection
import TagScript.Proofs.Console.Replies
import TagScript.Proofs.Markup.Names
import TagScript.Proofs.Template.Building
import TagScript.Proofs.Text.Order
import TagScript.Proofs.Scope.Table
import TagScript.Proofs.Scope.Listing
import TagScript.Proofs.Decimal.Rounding
import TagScript.Proofs.Decimal.Whole
import TagScript.Proofs.Eval.Range
import TagScript.Proofs.Console.WordScan
import TagScript.Proofs.Value.Normal
