import Std.Data.HashMap
import TraceCheck.Evaluation.Basic

/-!
# Evaluating many rules on one trace

The spans of a trace are put in an index by name once, and each rule then looks
only at the spans that it names. The places of the evidence are kept in ascending
order.
-/

namespace TraceCheck

/-- The spans of a trace by name, each with its place, in the order of the trace. -/
abbrev SpanIndex := Std.HashMap String (List (Nat × Span))

namespace SpanIndex

/-- Put a span in front of those of its name. -/
def add (index : SpanIndex) (s : Span) (place : Nat) : SpanIndex :=
  index.insert s.operationName ((place, s) :: index.getD s.operationName [])

/-- The index of a trace. -/
def ofTrace (t : Trace) : SpanIndex :=
  t.spans.zipIdx.foldr (fun (s, place) index => index.add s place) ∅

/-- The spans of a name. -/
def named (index : SpanIndex) (name : String) : List (Nat × Span) :=
  index.getD name []

end SpanIndex

/-- The places in two ascending lists, in ascending order. -/
def mergePlaces : List Nat → List Nat → List Nat
  | [], ys => ys
  | xs, [] => xs
  | x :: xs, y :: ys =>
    if x < y then x :: mergePlaces xs (y :: ys)
    else if y < x then y :: mergePlaces (x :: xs) ys
    else x :: mergePlaces xs ys
termination_by xs ys => xs.length + ys.length

/-- What evaluating a rule on a trace yields. -/
structure Evaluation where
  /-- Whether the trace has what the rule describes. -/
  violated : Bool
  /-- The places of the spans that are evidence for it, in ascending order. -/
  matched : List Nat
  deriving DecidableEq, Repr

namespace Evaluation

/-- A violation, or none. What is not violated has no evidence. -/
def ofEvidence (violated : Bool) (places : List Nat) : Evaluation :=
  ⟨violated, if violated then places else []⟩

/-- What a side of a combination adds to the evidence: nothing unless it holds. -/
def contribution (e : Evaluation) : List Nat :=
  if e.violated then e.matched else []

/-- Both sides of a combination, as far as they hold. -/
def combine (op : LogicalOp) (l r : Evaluation) : Evaluation :=
  let violated := match op with
    | .and => l.violated && r.violated
    | .or => l.violated || r.violated
  ofEvidence violated (mergePlaces l.contribution r.contribution)

/-- The identifiers of the spans that are evidence. -/
def spanIds (e : Evaluation) (t : Trace) : List String :=
  let spans := t.spans.toArray
  e.matched.filterMap fun i => spans[i]?.map (·.spanId)

end Evaluation

/-- Evaluate a rule with an index. -/
def SpanIndex.evaluate (index : SpanIndex) : Expr → Evaluation
  | .binary op l r => .combine op (index.evaluate l) (index.evaluate r)
  | .not e => ⟨!(index.evaluate e).violated, []⟩
  | .has name clauses =>
    let found := (index.named name).filter fun (_, s) => clauses.all (·.holds s)
    ⟨!found.isEmpty, found.map (·.1)⟩
  | .count name op operand =>
    let left := index.named name
    let (value, right) := match operand with
      | .literal value => (value, [])
      | .count other => ((index.named other).length, index.named other)
    .ofEvidence (op.holdsOfCounts left.length value)
      (mergePlaces (left.map (·.1)) (right.map (·.1)))

/-- Evaluate a rule on a trace. -/
def Expr.evaluate (e : Expr) (t : Trace) : Evaluation :=
  (SpanIndex.ofTrace t).evaluate e

end TraceCheck
