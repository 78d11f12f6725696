import TraceCheck.Command.Arguments
import TraceCheck.Command.Check
import TraceCheck.Command.Eval
import TraceCheck.Command.Outcome
import TraceCheck.Config
import TraceCheck.Decimal.Double
import TraceCheck.Decimal.Reader
import TraceCheck.Decimal.Shortest
import TraceCheck.Diagnostic
import TraceCheck.Engine.Basic
import TraceCheck.Engine.Delivery
import TraceCheck.Engine.Error
import TraceCheck.Engine.Event
import TraceCheck.Engine.Journal
import TraceCheck.Escape
import TraceCheck.Evaluation.Basic
import TraceCheck.Evaluation.Comparison
import TraceCheck.Evaluation.Indexed
import TraceCheck.Expr.Basic
import TraceCheck.Expr.Error
import TraceCheck.Expr.Grammar
import TraceCheck.Expr.Lint
import TraceCheck.Expr.Parser
import TraceCheck.Expr.Printer
import TraceCheck.Json.Cursor
import TraceCheck.Json.Decoder
import TraceCheck.Json.Printer
import TraceCheck.Json.Reader
import TraceCheck.Json.Value
import TraceCheck.Limits
import TraceCheck.Main
import TraceCheck.Mismatch
import TraceCheck.Pattern.Basic
import TraceCheck.Proofs.Command.Evaluation
import TraceCheck.Proofs.Command.Excerpts
import TraceCheck.Proofs.Command.Listing
import TraceCheck.Proofs.Command.Report
import TraceCheck.Proofs.Engine.Answers
import TraceCheck.Proofs.Engine.Compilation
import TraceCheck.Proofs.Engine.Deliveries
import TraceCheck.Proofs.Engine.Failures
import TraceCheck.Proofs.Engine.Loading
import TraceCheck.Proofs.Evaluation.Reference
import TraceCheck.Proofs.Evaluation.Relevance
import TraceCheck.Proofs.Evaluation.Sufficiency
import TraceCheck.Proofs.Grammar.Derivability
import TraceCheck.Proofs.Grammar.Layout
import TraceCheck.Proofs.Grammar.Nesting
import TraceCheck.Proofs.Grammar.Recovery
import TraceCheck.Proofs.Grammar.Remarks
import TraceCheck.Proofs.Grammar.Timing
import TraceCheck.Proofs.Grammar.Trailing
import TraceCheck.Proofs.Grammar.WiderLimits
import TraceCheck.Proofs.Pattern.Guard
import TraceCheck.Proofs.Printing.Canonical
import TraceCheck.Proofs.Printing.RoundTrip
import TraceCheck.Proofs.Redaction.Cards
import TraceCheck.Proofs.Redaction.Credentials
import TraceCheck.Proofs.Redaction.Cutting
import TraceCheck.Proofs.Redaction.Indifference
import TraceCheck.Proofs.Redaction.Repetition
import TraceCheck.Proofs.Rendering.Messages
import TraceCheck.Proofs.Rendering.Visibility
import TraceCheck.Proofs.Text.Stream
import TraceCheck.Proofs.Token.Faults
import TraceCheck.Proofs.Token.Lines
import TraceCheck.Proofs.Token.Quoting
import TraceCheck.Proofs.Token.Tiles
import TraceCheck.Proofs.Token.Tiling
import TraceCheck.Proofs.Trace.RoundTrip
import TraceCheck.Proofs.Yaml.Encoding
import TraceCheck.Redaction.Basic
import TraceCheck.Redaction.Cut
import TraceCheck.Redaction.Secret
import TraceCheck.Redaction.Shape
import TraceCheck.Regex.Bracket
import TraceCheck.Regex.Meaning
import TraceCheck.Regex.Node
import TraceCheck.Regex.Parser
import TraceCheck.Regex.Program
import TraceCheck.Regex.Property
import TraceCheck.Regex.Size
import TraceCheck.Regex.Syntax
import TraceCheck.Rule.Basic
import TraceCheck.Rule.Definition
import TraceCheck.Rule.Directory
import TraceCheck.Rule.Id
import TraceCheck.Rule.Store
import TraceCheck.Text.Blank
import TraceCheck.Text.Control
import TraceCheck.Text.Hex
import TraceCheck.Text.Quoted
import TraceCheck.Text.Stream
import TraceCheck.Time.Calendar
import TraceCheck.Time.Instant
import TraceCheck.Time.Reader
import TraceCheck.Token.Basic
import TraceCheck.Token.Error
import TraceCheck.Token.Lexer
import TraceCheck.Trace.Basic
import TraceCheck.Trace.Json
import TraceCheck.Trace.Value
import TraceCheck.Unicode.Age
import TraceCheck.Unicode.Binary
import TraceCheck.Unicode.CaseFold
import TraceCheck.Unicode.CodePoints
import TraceCheck.Unicode.GeneralCategory
import TraceCheck.Unicode.Script
import TraceCheck.Unicode.ScriptExtension
import TraceCheck.Unicode.Segmentation
import TraceCheck.Unicode.Word
import TraceCheck.Verdict
import TraceCheck.Verdict.Json
import TraceCheck.Verdict.Rendering
import TraceCheck.Violation
import TraceCheck.Yaml.Content
import TraceCheck.Yaml.Cursor
import TraceCheck.Yaml.Decoder
import TraceCheck.Yaml.Document
import TraceCheck.Yaml.Encoding
import TraceCheck.Yaml.Event
import TraceCheck.Yaml.Lexer
import TraceCheck.Yaml.Resolution
import TraceCheck.Yaml.Scalar
import TraceCheck.Yaml.Token
