import TraceCheck.Diagnostic
import TraceCheck.Limits
import TraceCheck.Trace.Basic
import TraceCheck.Yaml.Decoder

/-!
# What an engine refuses

The traces that are too large, and the reasons for which an operation of an engine has no
result.
-/

namespace TraceCheck

/-- In what a trace is too large. -/
inductive Excess where
  | spans (count limit : Nat)
  | attributes (spanId : String) (count limit : Nat)
  deriving DecidableEq, Repr

/-- The words for an excess. -/
def Excess.message : Excess → String
  | .spans count limit =>
    "trace has " ++ toString count ++ " spans, limit is " ++ toString limit
  | .attributes spanId count limit =>
    "span '" ++ spanId ++ "' has " ++ toString count ++ " attributes, limit is " ++
      toString limit

/-- In what a trace is too large, if it is: first its number of spans, then the first span
with too many attributes. -/
def Limits.excess? (l : Limits) (t : Trace) : Option Excess :=
  if l.maxSpansPerTrace < t.spans.length then some (.spans t.spans.length l.maxSpansPerTrace)
  else
    (t.spans.find? fun s => decide (l.maxAttributesPerSpan < s.attributes.length)).map fun s =>
      .attributes s.spanId s.attributes.length l.maxAttributesPerSpan

/-- Why an operation has no result. -/
inductive EngineError where
  /-- The text of a rule is not valid. -/
  | compilation (ruleId : String) (errors : List Diagnostic)
  | resourceLimit (excess : Excess)
  | ruleNotFound (id : String)
  /-- What is at a path cannot be read. -/
  | unreadable (path reason : String)
  | ruleFile (path : String) (fault : Yaml.Fault)
  | config (fault : Yaml.Fault)

namespace EngineError

/-- The words for an error. -/
def message : EngineError → String
  | compilation id errors =>
    "rule '" ++ id ++ "' failed to compile with " ++ toString errors.length ++ " error(s)"
  | resourceLimit x => "resource limit exceeded: " ++ x.message
  | ruleNotFound id => "rule not found: " ++ id
  | unreadable path reason => "failed to read " ++ path ++ ": " ++ reason
  | ruleFile path fault => "invalid rule file " ++ path ++ ": " ++ fault.message
  | config fault => "invalid configuration: " ++ fault.message

/-- The words for an error, followed by those for what caused it. -/
def causes : EngineError → List String
  | e@(unreadable _ reason) => [e.message, reason]
  | e => [e.message]

/-- The diagnostics that an error carries. -/
def diagnostics : EngineError → List Diagnostic
  | compilation _ errors => errors
  | _ => []

end EngineError

end TraceCheck
