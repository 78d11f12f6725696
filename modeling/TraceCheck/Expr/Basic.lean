import TraceCheck.Pattern.Basic

/-!
# Rule expressions

A rule is a combination of checks on a trace: whether a span of some name with
some attributes occurs, and how often spans occur. Expressions are equal when
their literals are, numbers as numbers and patterns by their text.
-/

namespace TraceCheck

/-- How two expressions are joined. -/
inductive LogicalOp where
  | and
  | or
  deriving DecidableEq, Repr

/-- How a literal or a count is compared. -/
inductive Comparator where
  | eq | notEq | gt | gte | lt | lte
  /-- Membership in a list. -/
  | in
  /-- A match of a pattern. -/
  | matches
  /-- A part of a text. -/
  | contains
  deriving DecidableEq, Repr

namespace LogicalOp

/-- The word for an operator. -/
def name : LogicalOp → String
  | .and => "and"
  | .or => "or"

end LogicalOp

namespace Comparator

/-- The comparators. -/
def all : List Comparator :=
  [.eq, .notEq, .gt, .gte, .lt, .lte, .in, .matches, .contains]

/-- How a comparator is written. -/
def name : Comparator → String
  | .eq => "=="
  | .notEq => "!="
  | .gt => ">"
  | .gte => ">="
  | .lt => "<"
  | .lte => "<="
  | .in => "in"
  | .matches => "matches"
  | .contains => "contains"

/-- Whether a comparator compares sizes. -/
def isRelational : Comparator → Bool
  | .eq | .notEq | .gt | .gte | .lt | .lte => true
  | .in | .matches | .contains => false

/-- Compare two counts. The comparators that do not compare sizes never hold. -/
def holdsOfCounts (op : Comparator) (m n : Nat) : Bool :=
  match op with
  | .eq => m == n
  | .notEq => m != n
  | .gt => n < m
  | .gte => n ≤ m
  | .lt => m < n
  | .lte => m ≤ n
  | .in | .matches | .contains => false

end Comparator

/-- A value in a rule. -/
inductive Literal where
  | string (s : String)
  | number (x : Float)
  | bool (b : Bool)
  | list (items : List Literal)
  | pattern (p : Pattern)

mutual

/-- Equality of literals; numbers are compared as numbers. -/
def Literal.same : Literal → Literal → Bool
  | .string s, .string t => s == t
  | .number x, .number y => x == y
  | .bool a, .bool b => a == b
  | .list xs, .list ys => sameLiterals xs ys
  | .pattern p, .pattern q => p == q
  | _, _ => false

/-- Equality of lists of literals. -/
def sameLiterals : List Literal → List Literal → Bool
  | [], [] => true
  | x :: xs, y :: ys => x.same y && sameLiterals xs ys
  | _, _ => false

end

instance : BEq Literal := ⟨Literal.same⟩

/-- What is asked of an attribute. -/
inductive Test where
  /-- It is present and neither zero, empty nor false. -/
  | truthy
  /-- It compares with a literal. -/
  | compare (op : Comparator) (value : Literal)
  deriving BEq

/-- A condition on an attribute of a span. -/
structure Clause where
  name : String
  test : Test
  negated : Bool
  deriving BEq

/-- Whole numbers in rules are below this. -/
def countBound : Nat := 1 <<< 64

/-- What a count is compared with. -/
inductive CountOperand where
  | literal (value : Nat)
  /-- The number of spans of another name. -/
  | count (spanName : String)
  deriving DecidableEq, Repr

/-- A combination of checks on a trace. -/
inductive Expr where
  | binary (op : LogicalOp) (left right : Expr)
  | not (inner : Expr)
  /-- A span of this name satisfies all clauses. -/
  | has (spanName : String) (clauses : List Clause)
  /-- The number of spans of this name compares with the operand. -/
  | count (spanName : String) (op : Comparator) (operand : CountOperand)
  deriving BEq

namespace Expr

/-- The number of nested nodes; a check alone has one. -/
def depth : Expr → Nat
  | binary _ l r => 1 + max l.depth r.depth
  | not e => 1 + e.depth
  | has .. => 1
  | count .. => 1

/-- The names of spans in an expression from left to right. -/
def spanNames : Expr → List String
  | binary _ l r => l.spanNames ++ r.spanNames
  | not e => e.spanNames
  | has n _ => [n]
  | count n _ (.literal _) => [n]
  | count n _ (.count m) => [n, m]

end Expr

end TraceCheck
