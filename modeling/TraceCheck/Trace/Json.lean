import TraceCheck.Json.Decoder
import TraceCheck.Time.Reader
import TraceCheck.Trace.Basic

/-!
# Traces in JSON

`Trace.decoder` reads a trace from text or from a structured value, `Trace.json`
writes one. Only the names of the trace and of the operations are required.
-/

namespace TraceCheck

open TraceCheck.Json

/-- Statuses in data. -/
def Status.decoder : Decoder Status :=
  .enumeration Status.dataNames

/-- Moments in data. -/
def Time.Instant.decoder : Decoder Time.Instant :=
  .spelled "an RFC 3339 formatted date and time string" fun s =>
    match Time.Instant.ofText s with
    | .ok t => .ok t
    | .error e => .error (.malformed e.message)

/-- Attributes in data; of those with the same name the last one counts. -/
def attributesDecoder : Decoder (List (String × Value)) where
  fromText := (fun ms => attributes ms) <$> Decoder.members.fromText
  fromValue j := (fun ms => attributes ms) <$> Decoder.members.fromValue j
where
  /-- The attributes of the members of an object. -/
  attributes (ms : List (String × Json)) : List (String × Value) :=
    sortMembers (ms.map fun (k, j) => (k, Value.ofJson j))

/-- A span of which some fields are known. -/
structure SpanDraft where
  spanId : Option String := none
  traceId : Option (Option String) := none
  operationName : Option String := none
  serviceName : Option (Option String) := none
  attributes : Option (List (String × Value)) := none
  status : Option Status := none
  durationMs : Option Float := none
  startTime : Option (Option Time.Instant) := none

namespace SpanDraft

/-- The fields of a span in data. -/
def fields : List (Json.Field SpanDraft) :=
  [ .of ["spanId"] false .string (·.spanId) fun s a => { s with spanId := some a },
    .of ["traceId"] false (.optional .string) (·.traceId) fun s a =>
      { s with traceId := some a },
    .of ["operationName", "name"] true .string (·.operationName) fun s a =>
      { s with operationName := some a },
    .of ["serviceName"] false (.optional .string) (·.serviceName) fun s a =>
      { s with serviceName := some a },
    .of ["attributes"] false attributesDecoder (·.attributes) fun s a =>
      { s with attributes := some a },
    .of ["status"] false Status.decoder (·.status) fun s a => { s with status := some a },
    .of ["durationMs"] false .double (·.durationMs) fun s a =>
      { s with durationMs := some a },
    .of ["startTime"] false (.optional Time.Instant.decoder) (·.startTime) fun s a =>
      { s with startTime := some a } ]

/-- The span, with defaults for the fields that are not known. -/
def finish (s : SpanDraft) : Span :=
  { spanId := s.spanId.getD ""
    traceId := s.traceId.join
    operationName := s.operationName.getD ""
    serviceName := s.serviceName.join
    attributes := s.attributes.getD []
    status := s.status.getD .unset
    durationMs := s.durationMs.getD 0
    startTime := s.startTime.join }

end SpanDraft

/-- Spans in data. -/
def Span.decoder : Decoder Span :=
  .record "struct Span" SpanDraft.fields {} SpanDraft.finish

/-- A trace of which some fields are known. -/
structure TraceDraft where
  traceId : Option String := none
  spans : Option (List Span) := none

namespace TraceDraft

/-- The fields of a trace in data. -/
def fields : List (Json.Field TraceDraft) :=
  [ .of ["traceId"] true .string (·.traceId) fun t a => { t with traceId := some a },
    .of ["spans"] false (.list Span.decoder) (·.spans) fun t a => { t with spans := some a } ]

/-- The trace, with defaults for the fields that are not known. -/
def finish (t : TraceDraft) : Trace :=
  ⟨t.traceId.getD "", t.spans.getD []⟩

end TraceDraft

/-- Traces in data. -/
def Trace.decoder : Decoder Trace :=
  .record "struct Trace" TraceDraft.fields {} TraceDraft.finish

/-- A span as a structured value; what is not set is left out. -/
def Span.json (s : Span) : Json :=
  .object <|
    [("spanId", .string s.spanId)] ++
    optional "traceId" (s.traceId.map .string) ++
    [("operationName", .string s.operationName)] ++
    optional "serviceName" (s.serviceName.map .string) ++
    [ ("attributes", .object (s.attributes.map fun (k, v) => (k, v.json))),
      ("status", .string s.status.name),
      ("durationMs", .double s.durationMs) ] ++
    optional "startTime" (s.startTime.map fun t => .string t.text)

/-- A trace as a structured value. -/
def Trace.json (t : Trace) : Json :=
  .object [("traceId", .string t.traceId), ("spans", .array (t.spans.map Span.json))]

end TraceCheck
