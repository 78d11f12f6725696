import TraceCheck.Command.Outcome
import TraceCheck.Expr.Parser
import TraceCheck.Json.Printer
import TraceCheck.Verdict.Json
import TraceCheck.Verdict.Rendering

/-!
# The command `check`

Checking the text of one rule. The verdict is written as text, as JSON, or as a list in
HTML or Markdown; its messages are made fit for where they are shown.
-/

namespace TraceCheck

/-- In which form a verdict is written. -/
inductive ReportFormat where
  | text
  | json
  | html
  | markdown
  deriving DecidableEq, Repr

namespace ReportFormat

/-- The formats by name. -/
def names : List (String × ReportFormat) :=
  [("text", text), ("json", json), ("html", html), ("markdown", markdown)]

/-- Where a report in a format is shown. -/
def surface : ReportFormat → Surface
  | .text | .json => .plain
  | .html => .html
  | .markdown => .markdown

/-- The items of a list in HTML and Markdown. -/
def item (format : ReportFormat) (d : Diagnostic) : String :=
  match format with
  | .markdown =>
    "- **" ++ d.level.name ++ "** (" ++ toString d.line ++ ":" ++ toString d.column ++ "): " ++
      d.message
  | _ =>
    "  <li class=\"" ++ d.level.name ++ "\" data-line=\"" ++ toString d.line ++
      "\" data-column=\"" ++ toString d.column ++ "\">" ++ d.message ++ "</li>"

/-- The last line of a report as text. -/
def conclusion (v : Verdict) : String :=
  if v.isValid then "rule is valid (" ++ toString v.warnings.length ++ " warning(s))"
  else "rule is invalid (" ++ toString v.errors.length ++ " error(s))"

/-- The lines of a report. -/
def report (format : ReportFormat) (source : String) (v : Verdict) : List String :=
  match format with
  | .text => v.diagnostics.map (·.showIn source) ++ [conclusion v]
  | .json => [Json.pretty v.json]
  | .html => ["<ul class=\"diagnostics\">"] ++ v.diagnostics.map html.item ++ ["</ul>"]
  | .markdown => v.diagnostics.map markdown.item

end ReportFormat

/-- Check the text of a rule and report the verdict. -/
def checkCommand (config : Config) (format : ReportFormat) (source : String) : Outcome :=
  let v := check config.limits source
  let shown := v.rendered format.surface config.limits.maxMessageLength
  { code := if v.isValid then 0 else 1
    output := String.join ((format.report source shown).map (· ++ "\n")) }

end TraceCheck
