import TraceCheck.Expr.Parser
import TraceCheck.Rule.Definition
import TraceCheck.Verdict.Json

/-!
# Rules

A rule that can be evaluated: a definition together with its expression and the
remarks on it. `Definition.compile` gives a rule exactly when the text of the
definition is valid, and else the errors of the text.
-/

namespace TraceCheck

/-- A rule that can be evaluated. -/
structure Rule where
  id : String
  name : String
  description : String
  severity : Severity
  /-- The text that the expression was read from. -/
  source : String
  ast : Expr
  /-- Whether the rule is evaluated. -/
  enabled : Bool
  /-- The remarks on the text. -/
  warnings : List Diagnostic

/-- A rule as a structured value. -/
def Rule.json (r : Rule) : Json :=
  .object
    [ ("id", .string r.id), ("name", .string r.name), ("description", .string r.description),
      ("severity", .string r.severity.name), ("source", .string r.source), ("ast", r.ast.json),
      ("enabled", .bool r.enabled), ("warnings", .array (r.warnings.map Diagnostic.json)) ]

/-- The expression of a verdict without errors, else the errors. -/
def Verdict.accepted (v : Verdict) : Except (List Diagnostic) Expr :=
  match v.isValid, v.ast with
  | true, some e => .ok e
  | _, _ => .error v.errors

/-- The rule of a definition under an identifier. -/
def Definition.compile (l : Limits) (id : String) (d : Definition) (clock : Clock := .still) :
    Except (List Diagnostic) Rule :=
  let v := check l d.expression clock
  v.accepted.map fun e =>
    { id, name := d.name, description := d.description, severity := d.severity,
      source := d.expression, ast := e, enabled := d.enabled, warnings := v.warnings }

end TraceCheck
