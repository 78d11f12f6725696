import TraceCheck.Time.Instant
import TraceCheck.Trace.Value

/-!
# Traces

A trace is a list of spans, units of work with attributes. The fields of a span
can be asked for by name like attributes and come before attributes of that name,
unless they are not set.
-/

namespace TraceCheck

/-- How a span ended. -/
inductive Status where
  | unset
  | ok
  | error
  deriving DecidableEq, Repr

namespace Status

/-- The name of a status. -/
def name : Status → String
  | .unset => "UNSET"
  | .ok => "OK"
  | .error => "ERROR"

/-- The names of statuses in data. -/
def dataNames : List (String × Status) :=
  [("UNSET", unset), ("unset", unset), ("OK", ok), ("ok", ok), ("ERROR", error),
    ("error", error)]

end Status

/-- A unit of work. -/
structure Span where
  spanId : String := ""
  /-- The trace that the span says it belongs to. -/
  traceId : Option String := none
  operationName : String
  serviceName : Option String := none
  /-- The attributes by name. -/
  attributes : List (String × Value) := []
  status : Status := .unset
  durationMs : Float := 0
  startTime : Option Time.Instant := none

namespace Span

/-- The field of a span that a name stands for, if it is set. -/
def builtin? (s : Span) (name : String) : Option Value :=
  match name with
  | "operationName" | "name" => some (.string s.operationName)
  | "serviceName" => s.serviceName.map .string
  | "status" => if s.status = .unset then none else some (.string s.status.name)
  | "duration" | "durationMs" => some (.double s.durationMs)
  | "spanId" => if s.spanId = "" then none else some (.string s.spanId)
  | _ => none

/-- The value that a name stands for. -/
def attribute? (s : Span) (name : String) : Option Value :=
  (s.builtin? name).or (s.attributes.lookup name)

end Span

/-- The spans of one request. -/
structure Trace where
  traceId : String
  spans : List Span := []

/-- The spans that say they belong to another trace. -/
def Trace.foreignSpans (t : Trace) : List Span :=
  t.spans.filter fun s => s.traceId.any (· != t.traceId)

end TraceCheck
