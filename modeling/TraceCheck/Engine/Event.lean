import TraceCheck.Engine.Error
import TraceCheck.Json.Value
import TraceCheck.Violation

/-!
# Events

What is noted while an engine works: a message and data by name, as a structured value and
as text for a log. In the text a value stands as it is, so that it may run over several
lines.
-/

namespace TraceCheck

/-- How much an event matters. -/
inductive EventLevel where
  | debug
  | info
  | warn
  deriving DecidableEq, Repr

/-- An event in a log: a message and data by name. -/
structure Event where
  level : EventLevel := .warn
  message : String
  fields : List (String × Json)

namespace Event

/-- An event as a structured value. -/
def json (e : Event) : Json :=
  .object (("message", .string e.message) :: e.fields)

/-- A value as it stands in a log. -/
def valueText : Json → String
  | .string s => s
  | .int n => toString n
  | _ => ""

/-- An event as it stands in a log. -/
def text (e : Event) : String :=
  e.message ++ String.join (e.fields.map fun (name, value) => " " ++ name ++ "=" ++ valueText value)

/-- Whether an event is shown. Only warnings are unless one is looking for faults. -/
def isShown (debug : Bool) (e : Event) : Bool :=
  debug || e.level = .warn

end Event

/-- The event about a violation. -/
def Violation.event (v : Violation) : Event :=
  { message := "trace violated rule"
    fields :=
      [ ("rule_id", .string v.ruleId), ("rule_name", .string v.ruleName),
        ("severity", .string v.severity.name), ("trace_id", .string v.traceId),
        ("spans", .int v.spanIds.length) ] }

/-- The event about a trace that is too large. -/
def Excess.event (x : Excess) (traceId : String) : Event :=
  { message := "trace rejected"
    fields := ("trace_id", .string traceId) :: match x with
      | .spans count limit => [("spans", .int count), ("limit", .int limit)]
      | .attributes spanId count limit =>
        [("span_id", .string spanId), ("attributes", .int count), ("limit", .int limit)] }

end TraceCheck
