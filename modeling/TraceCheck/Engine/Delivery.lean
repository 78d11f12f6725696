import TraceCheck.Engine.Basic
import TraceCheck.Engine.Event

/-!
# Delivering violations

Violations are kept in a collector until they are taken, or written to a log, one event a
violation. A trace that is too large adds nothing to a collector, and one event about its
excess to a log.
-/

namespace TraceCheck

/-- The violations that have not been taken yet, in the order in which they were found. -/
structure Collector where
  violations : List Violation := []

namespace Collector

/-- Add violations. -/
def publish (c : Collector) (vs : List Violation) : Collector :=
  ⟨c.violations ++ vs⟩

/-- Take all violations. -/
def take (c : Collector) : List Violation × Collector :=
  (c.violations, {})

end Collector

namespace Engine

/-- Add the violations by a trace to a collector; the result is their number. -/
def publish (e : Engine) (t : Trace) (c : Collector) : Except EngineError Nat × Collector :=
  match e.evaluate t with
  | .ok vs => (.ok vs.length, c.publish vs)
  | .error f => (.error f, c)

/-- Write the violations by a trace to a log; the result is their number. -/
def log (e : Engine) (t : Trace) : Except EngineError Nat × List Event :=
  match e.limits.excess? t with
  | some x => (.error (.resourceLimit x), [x.event t.traceId])
  | none =>
    let vs := e.violations t
    (.ok vs.length, vs.map (·.event))

end Engine

end TraceCheck
