import TraceCheck.Command.Outcome
import TraceCheck.Engine.Journal
import TraceCheck.Json.Printer
import TraceCheck.Trace.Json

/-!
# The command `eval`

Evaluating traces, one a line, with the rules of some directories. Every violation is
written on a line of its own. Blank lines and traces that are too large are passed over; the
first line that is not a trace or cannot be read ends the command.
-/

namespace TraceCheck

namespace Engine

/-- The trace on a line, if it is not blank. -/
def traceOfLine (number : Nat) (line : List Char) : Except Failure (Option Trace) :=
  if line.all Text.isBlank then .ok none
  else
    match Json.Decoder.decodeText Trace.decoder (String.ofList line) with
    | .error f => .error ⟨"invalid trace on line " ++ toString number, [f.message]⟩
    | .ok t => .ok (some t)

/-- The violations by the trace on a line. -/
def evaluateLine (e : Engine) (number : Nat) (line : List Char) :
    Except Failure (List Violation) := do
  match ← traceOfLine number line with
  | none => return []
  | some t =>
    match e.evaluate t with
    | .ok vs => return vs
    | .error _ => return []

/-- The events of evaluating the trace on a line. -/
def lineEvents (e : Engine) (number : Nat) (line : List Char) : List Event :=
  match traceOfLine number line with
  | .ok (some t) =>
    e.evaluationEvents t ++ ((e.limits.excess? t).map (·.skipEvent t.traceId)).toList
  | _ => []

/-- The violations by the traces on lines up to the first that cannot be read or is not a
trace, and the failure at that one. -/
def evaluateLines (e : Engine) :
    Nat → List (Except String (List Char)) → List Violation × Option Failure
  | _, [] => ([], none)
  | _, .error reason :: _ => ([], some ⟨reason, []⟩)
  | number, .ok line :: rest =>
    match e.evaluateLine number line with
    | .error f => ([], some f)
    | .ok vs =>
      let (others, failure) := e.evaluateLines (number + 1) rest
      (vs ++ others, failure)

/-- The events of evaluating the traces on lines up to the first that cannot be read or is
not a trace. -/
def linesEvents (e : Engine) : Nat → List (Except String (List Char)) → List Event
  | _, [] => []
  | _, .error _ :: _ => []
  | number, .ok line :: rest =>
    match traceOfLine number line with
    | .error _ => []
    | .ok _ => e.lineEvents number line ++ e.linesEvents (number + 1) rest

end Engine

/-- The engine of a configuration with the rules of its directories and some more. -/
def Engine.ofConfig (config : Config) (ids : IdSupply) (dirs : List RuleDirectory) :
    Except EngineError Engine :=
  ofDirectories config.limits ids config.failOnParseError dirs

/-- The events of loading the rules for a configuration. -/
def Engine.configEvents (config : Config) (ids : IdSupply) (dirs : List RuleDirectory) :
    List Event :=
  directoriesEvents config.failOnParseError { limits := config.limits, ids } dirs

/-- Evaluate the traces in an input with the rules of some directories. -/
def evalCommand (config : Config) (ids : IdSupply) (dirs : List RuleDirectory)
    (traces : Input) : Outcome :=
  let loading := (Engine.configEvents config ids dirs).map Notice.event
  match Engine.ofConfig config ids dirs with
  | .error f =>
    { code := 1, notices := loading ++ [.text (Failure.ofError "building rule engine" f).text] }
  | .ok e =>
    let loaded := loading ++ [.text ("Loaded " ++ toString e.store.size ++ " rules\n")]
    match traces.opened ("opening " ++ traces.name) with
    | .error f => { code := 1, notices := loaded ++ [.text f.text] }
    | .ok stream =>
      let lines := stream.lines
      let (vs, failure) := e.evaluateLines 1 lines
      { code := if failure.isSome then 1 else 0
        output := String.join (vs.map fun v => Json.compact v.json ++ "\n")
        notices := loaded ++ (e.linesEvents 1 lines).map Notice.event ++
          (failure.map fun f => Notice.text f.text).toList }

end TraceCheck
