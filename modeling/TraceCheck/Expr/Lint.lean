import TraceCheck.Diagnostic
import TraceCheck.Expr.Basic

/-!
# Lints

Remarks about rules that are valid but fragile or expensive. `Expr.lints` reads
them off an expression from left to right.
-/

namespace TraceCheck

/-- A remark about a part of a rule. -/
inductive Lint where
  /-- The name of a span has no dot. -/
  | unqualifiedName (name : String)
  /-- Two expressions are alternatives. -/
  | alternatives
  /-- A count is compared with a large number. -/
  | highCount
  /-- A count must have an exact value. -/
  | exactCount
  /-- An amount must have an exact value. -/
  | exactAmount
  deriving DecidableEq, Repr

namespace Lint

/-- Counts above this are large. -/
def highCountThreshold : Nat := 1000

/-- How grave a remark is. -/
def level : Lint → Level
  | .highCount => .warning
  | _ => .info

/-- The words of a remark. -/
def message : Lint → String
  | .unqualifiedName name =>
    "Operation name '" ++ name ++ "' doesn't follow the 'service.operation' convention"
  | .alternatives => "OR expressions may create multiple signals"
  | .highCount =>
    "Counting more than " ++ toString highCountThreshold ++ " spans may impact performance"
  | .exactCount => "Exact count matching (==) is fragile"
  | .exactAmount => "Exact amount comparison (==) is fragile"

/-- What to do about a remark. -/
def suggestion : Lint → Option String
  | .unqualifiedName _ => some "Use names like 'payment.charge_card' or 'database.query'"
  | .alternatives => some "Consider splitting the alternatives into separate rules"
  | .highCount => none
  | .exactCount => some "Consider a range such as >= or <="
  | .exactAmount => some "Consider a range using > and < instead"

/-- The remarks about the name of a span. -/
def ofSpanName (name : String) : List Lint :=
  if name.toList.contains '.' then [] else [.unqualifiedName name]

/-- The remarks about joining two expressions. -/
def ofOperator : LogicalOp → List Lint
  | .and => []
  | .or => [.alternatives]

/-- The remarks about comparing a count with a number. -/
def ofCount (op : Comparator) (value : Nat) : List Lint :=
  (if highCountThreshold < value then [.highCount] else []) ++
    (if op = .eq then [.exactCount] else [])

/-- The part of a name behind its last dot. -/
def lastSegment (name : List Char) : List Char :=
  (name.reverse.takeWhile (· != '.')).reverse

/-- The remarks about a comparison of an attribute. -/
def ofComparison (name : String) (op : Comparator) (value : Literal) : List Lint :=
  match op, value with
  | .eq, .number _ =>
    if lastSegment name.toList = "amount".toList then [.exactAmount] else []
  | _, _ => []

/-- The remarks about a clause. -/
def ofClause (c : Clause) : List Lint :=
  match c.test with
  | .truthy => []
  | .compare op value => ofComparison c.name op value

end Lint

/-- The remarks about an expression from left to right. -/
def Expr.lints : Expr → List Lint
  | .binary op l r => l.lints ++ Lint.ofOperator op ++ r.lints
  | .not e => e.lints
  | .has spanName clauses => Lint.ofSpanName spanName ++ clauses.flatMap Lint.ofClause
  | .count spanName op (.literal value) => Lint.ofSpanName spanName ++ Lint.ofCount op value
  | .count spanName _ (.count other) => Lint.ofSpanName spanName ++ Lint.ofSpanName other

end TraceCheck
