import Conch.Code.Check
import Conch.Code.Complete
import Conch.Code.Fault
import Conch.Code.Grammar.Expr
import Conch.Code.Grammar.Pattern
import Conch.Code.Grammar.Stmt
import Conch.Code.Grammar.Template
import Conch.Code.Literal
import Conch.Code.Names
import Conch.Code.Printer
import Conch.Code.Program
import Conch.Code.Quoting
import Conch.Code.Reader
import Conch.Code.Scope
import Conch.Code.Token
import Conch.Code.Tree
import Conch.Code.Yield
import Conch.Decimal.Fixed
import Conch.Decimal.Integer
import Conch.Decimal.Shortest
import Conch.Eval.Assign
import Conch.Eval.Attribute
import Conch.Eval.Call
import Conch.Eval.Class
import Conch.Eval.Compare
import Conch.Eval.Comprehension
import Conch.Eval.Expr
import Conch.Eval.Format
import Conch.Eval.Item
import Conch.Eval.Iterate
import Conch.Eval.Layout
import Conch.Eval.Library.Convert
import Conch.Eval.Library.Function
import Conch.Eval.Library.Json
import Conch.Eval.Library.Math
import Conch.Eval.Library.Shell
import Conch.Eval.Library.System
import Conch.Eval.Machine
import Conch.Eval.Match
import Conch.Eval.Method.Basic
import Conch.Eval.Method.Container
import Conch.Eval.Method.File
import Conch.Eval.Method.Text
import Conch.Eval.Name
import Conch.Eval.Number
import Conch.Eval.Operator
import Conch.Eval.Show
import Conch.Eval.Source
import Conch.Eval.Stmt
import Conch.Eval.Store
import Conch.Eval.Trouble
import Conch.Eval.Value
import Conch.Line.Expansion
import Conch.Line.Lowering
import Conch.Line.Quote
import Conch.Line.Segment
import Conch.Line.Stage
import Conch.Line.Word
import Conch.Main
import Conch.Screen.Completion
import Conch.Screen.Enter
import Conch.Screen.Highlight.Code
import Conch.Screen.Highlight.Input
import Conch.Screen.Highlight.Kind
import Conch.Screen.Highlight.Rule
import Conch.Screen.Highlight.State
import Conch.Screen.Highlight.Strings
import Conch.Screen.Highlight.Words
import Conch.Screen.Indent
import Conch.Screen.Keys
import Conch.Screen.Known
import Conch.Screen.Prompt
import Conch.Session.Datum
import Conch.Session.Line
import Conch.Session.Loop
import Conch.Session.Settle
import Conch.Session.Start
import Conch.Session.Step
import Conch.Shell.Builtin
import Conch.Shell.Expand
import Conch.Shell.Invoke
import Conch.World.Posix
import Conch.Shell.Redirect
import Conch.Shell.Run
import Conch.Text.Alphabet
import Conch.Text.Blank
import Conch.Text.Case
import Conch.Text.Digit
import Conch.Text.Letter
import Conch.Text.Named
import Conch.Text.Pattern
import Conch.Text.Printable
import Conch.Text.Quoted
import Conch.Text.Search
import Conch.Text.Utf8
import Conch.World.Basic
import Conch.World.Files
import Conch.World.Path
import Conch.World.Program
import Conch.World.Setup
import Conch.Proofs.Code.Binding
import Conch.Proofs.Code.Grammar
import Conch.Proofs.Code.Literal
import Conch.Proofs.Code.NoExpression
import Conch.Proofs.Code.Positions
import Conch.Proofs.Code.Printed
import Conch.Proofs.Code.Program
import Conch.Proofs.Code.Quoting
import Conch.Proofs.Code.Reader
import Conch.Proofs.Code.Words
import Conch.Proofs.Effect
import Conch.Proofs.Eval.CapturedLines
import Conch.Proofs.Eval.Class
import Conch.Proofs.Eval.CodeValue
import Conch.Proofs.Eval.Command
import Conch.Proofs.Eval.Expansion
import Conch.Proofs.Eval.Lines
import Conch.Proofs.Eval.NoticedRedirects
import Conch.Proofs.Eval.OneCall
import Conch.Proofs.Eval.ScopedCapture
import Conch.Proofs.Eval.Scopes
import Conch.Proofs.Eval.SingleRun
import Conch.Proofs.Eval.ValueExpansion
import Conch.Proofs.Eval.ValueReport
import Conch.Proofs.Line.Breaks
import Conch.Proofs.Line.Chain
import Conch.Proofs.Line.Command
import Conch.Proofs.Line.Cut
import Conch.Proofs.Line.Expansions
import Conch.Proofs.Line.LineFeeds
import Conch.Proofs.Line.LoneValue
import Conch.Proofs.Line.Lowering
import Conch.Proofs.Line.Matching
import Conch.Proofs.Line.Noticed
import Conch.Proofs.Line.Outermost
import Conch.Proofs.Line.Pipeline
import Conch.Proofs.Line.Placeholder
import Conch.Proofs.Line.Readers
import Conch.Proofs.Line.Rewriting
import Conch.Proofs.Line.Rows
import Conch.Proofs.Line.Severing
import Conch.Proofs.Line.Spelling
import Conch.Proofs.Line.Splicing
import Conch.Proofs.Line.Tokens
import Conch.Proofs.Line.Unknown
import Conch.Proofs.Line.WordQuotes
import Conch.Proofs.Screen.Completion
import Conch.Proofs.Screen.Enter
import Conch.Proofs.Screen.Highlight
import Conch.Proofs.Screen.Prompt
import Conch.Proofs.Session.Course
import Conch.Proofs.Session.Status
import Conch.Proofs.Shell.Activation
import Conch.Proofs.Shell.Capture
import Conch.Proofs.Shell.Expand
import Conch.Proofs.Shell.History
import Conch.Proofs.Shell.Isolation
import Conch.Proofs.Shell.PipelineRedirects
import Conch.Proofs.Shell.PipelineStatus
import Conch.Proofs.Shell.Redirection
import Conch.Proofs.Shell.Relay
import Conch.Proofs.Shell.Turns
import Conch.Proofs.Shell.Unopened
import Conch.Proofs.Shell.Wordless
import Conch.Proofs.Text.Pattern
import Conch.Proofs.Text.Replace
import Conch.Proofs.Text.Utf8
import Conch.Proofs.World.Opening
