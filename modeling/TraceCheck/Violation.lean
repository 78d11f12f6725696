import TraceCheck.Evaluation.Indexed
import TraceCheck.Rule.Basic

/-!
# Violations

What is reported when a trace has what a rule describes.
-/

namespace TraceCheck

/-- A trace has what a rule describes. -/
structure Violation where
  ruleId : String
  ruleName : String
  severity : Severity
  traceId : String
  /-- The identifiers of the spans that are evidence, in the order of the trace. -/
  spanIds : List String
  description : String
  deriving DecidableEq, Repr

namespace Violation

/-- The violation of a rule that an evaluation found. -/
def ofEvaluation (r : Rule) (t : Trace) (e : Evaluation) : Violation :=
  { ruleId := r.id, ruleName := r.name, severity := r.severity, traceId := t.traceId,
    spanIds := e.spanIds t, description := r.description }

/-- A violation as a structured value; an empty description is left out. -/
def json (v : Violation) : Json :=
  .object <|
    [ ("ruleId", .string v.ruleId), ("ruleName", .string v.ruleName),
      ("severity", .string v.severity.name), ("traceId", .string v.traceId),
      ("spanIds", .array (v.spanIds.map .string)) ] ++
    Json.optional "description" (if v.description = "" then none else some (.string v.description))

end Violation

end TraceCheck
