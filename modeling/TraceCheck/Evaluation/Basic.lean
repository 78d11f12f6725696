import TraceCheck.Evaluation.Comparison
import TraceCheck.Trace.Basic

/-!
# What rules say about traces

`Expr.holds` is the meaning of an expression in a trace: whether the trace has what
the expression describes, which for a rule is a violation. `Expr.supportedBy` says
which spans are evidence for it, and `Expr.evidence` lists them.
-/

namespace TraceCheck

/-- Whether a value passes a test. -/
def Test.holds (t : Test) (v : Value) : Bool :=
  match t with
  | .truthy => v.isTruthy
  | .compare op x => v.satisfies op x

/-- Whether a clause holds for a span. A test of an attribute that is absent fails,
and its negation holds. -/
def Clause.holds (c : Clause) (s : Span) : Bool :=
  (s.attribute? c.name).any c.test.holds != c.negated

/-- Whether a span has a name and satisfies all clauses. -/
def Span.satisfies (s : Span) (name : String) (clauses : List Clause) : Bool :=
  s.operationName == name && clauses.all (·.holds s)

/-- The number of spans of a name. -/
def Trace.countOf (t : Trace) (name : String) : Nat :=
  t.spans.countP (·.operationName == name)

/-- The number that a count is compared with. -/
def CountOperand.valueIn (t : Trace) : CountOperand → Nat
  | .literal value => value
  | .count name => t.countOf name

/-- Whether spans of a name are counted on this side of a comparison. -/
def CountOperand.counts (name : String) : CountOperand → Bool
  | .literal _ => false
  | .count other => name == other

namespace Expr

/-- Whether a trace has what an expression describes. -/
def holds (t : Trace) : Expr → Bool
  | binary .and l r => l.holds t && r.holds t
  | binary .or l r => l.holds t || r.holds t
  | not e => !e.holds t
  | has name clauses => t.spans.any (·.satisfies name clauses)
  | count name op operand => op.holdsOfCounts (t.countOf name) (operand.valueIn t)

/-- Whether a span is evidence for an expression. Both sides of a combination
contribute if they hold; that something is absent has no evidence. -/
def supportedBy (t : Trace) (s : Span) : Expr → Bool
  | binary op l r =>
    holds t (binary op l r) &&
      (l.holds t && l.supportedBy t s || r.holds t && r.supportedBy t s)
  | not _ => false
  | has name clauses => s.satisfies name clauses
  | count name op operand =>
    holds t (count name op operand) &&
      (s.operationName == name || operand.counts s.operationName)

/-- The places of the spans that are evidence for an expression. -/
def evidence (t : Trace) (e : Expr) : List Nat :=
  (t.spans.zipIdx.filter fun (s, _) => e.supportedBy t s).map (·.2)

end Expr

end TraceCheck
