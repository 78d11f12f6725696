import TraceCheck.Decimal.Reader
import TraceCheck.Expr.Basic
import TraceCheck.Token.Basic

/-!
# The grammar of rules

The derivations of the grammar

    rule    := term (("and" | "or") term)*
    term    := "not" term | check
    check   := "trace" "." "has" "(" name ")" ("." "where" "(" clause ")")*
             | "trace" "." "count" "(" name ")" comparator operand
    operand := number | "trace" "." "count" "(" name ")"
    clause  := "not"? name (comparator value)?
    value   := scalar | "[" (scalar ("," scalar)*)? "]"
    scalar  := string | number | "true" | "false"
    name    := word ("." word)*

as trees.  A tree has its terminals, the expression that it denotes, and side
conditions that the grammar does not express: which values a comparator may
have, which numbers are counts and how deep terms may nest.
-/

namespace TraceCheck

/-- A token without its place. -/
structure Terminal where
  kind : TokenKind
  text : String
  deriving DecidableEq, Repr

/-- The terminal of a kind with a fixed spelling. -/
def Terminal.fixed (kind : TokenKind) : Terminal :=
  ⟨kind, kind.literal⟩

/-- The terminal that a token is. -/
def Token.terminal (t : Token) : Terminal :=
  ⟨t.kind, t.text⟩

/-- The terminal of an operator that joins terms. -/
def LogicalOp.terminal : LogicalOp → Terminal
  | .and => .fixed .and
  | .or => .fixed .or

/-- The terminal of a comparator; `contains` is a word like any other. -/
def Comparator.terminal : Comparator → Terminal
  | .eq => .fixed .eq
  | .notEq => .fixed .notEq
  | .gt => .fixed .gt
  | .gte => .fixed .gte
  | .lt => .fixed .lt
  | .lte => .fixed .lte
  | .in => .fixed .in
  | .matches => .fixed .matches
  | .contains => ⟨.identifier, Comparator.contains.name⟩

namespace Grammar

/-! ## Derivations -/

/-- A word; keywords are words too. -/
structure Word where
  terminal : Terminal
  isWord : terminal.kind.isWord = true

/-- Words joined by dots. -/
structure Name where
  first : Word
  others : List Word

/-- A value that is no list. Numbers keep their spelling. -/
inductive Scalar where
  | string (content : String)
  | number (spelling : String)
  | bool (b : Bool)

/-- A value. -/
inductive Value where
  | scalar (s : Scalar)
  | list (items : List Scalar)

/-- What is asked of an attribute. -/
inductive Test where
  | truthy
  | compare (op : Comparator) (v : Value)

/-- A condition on an attribute. -/
structure Clause where
  negated : Bool
  name : Name
  test : Test

/-- What a count is compared with. -/
inductive Operand where
  | number (spelling : String)
  | count (name : Name)

/-- A check. -/
inductive Check where
  | has (name : Name) (clauses : List Clause)
  | count (name : Name) (op : Comparator) (operand : Operand)

/-- A check behind any number of `not`. -/
inductive Term where
  | check (c : Check)
  | not (t : Term)

/-- A rule: a term and the operators and terms behind it. -/
structure Chain where
  first : Term
  others : List (LogicalOp × Term)

/-! ## Terminals -/

/-- Terminals in parentheses. -/
def parenthesized (w : List Terminal) : List Terminal :=
  .fixed .lParen :: (w ++ [.fixed .rParen])

namespace Name

/-- The terminals of a name. -/
def terminals (n : Name) : List Terminal :=
  n.first.terminal :: n.others.flatMap fun w => [.fixed .dot, w.terminal]

/-- The name with its dots. -/
def text (n : Name) : String :=
  n.first.terminal.text ++ String.join (n.others.map fun w => "." ++ w.terminal.text)

end Name

/-- The terminal of a scalar. -/
def Scalar.terminal : Scalar → Terminal
  | .string content => ⟨.string, content⟩
  | .number spelling => ⟨.number, spelling⟩
  | .bool true => .fixed .true
  | .bool false => .fixed .false

/-- The terminals of the values of a list up to the closing bracket. -/
def itemTerminals (items : List Scalar) : List Terminal :=
  (items.map Scalar.terminal).intersperse (.fixed .comma) ++ [.fixed .rBracket]

/-- The terminals of a value. -/
def Value.terminals : Value → List Terminal
  | .scalar s => [s.terminal]
  | .list items => .fixed .lBracket :: itemTerminals items

/-- The terminals of what is asked of an attribute. -/
def Test.terminals : Test → List Terminal
  | .truthy => []
  | .compare op v => op.terminal :: v.terminals

/-- The terminals of a clause. -/
def Clause.terminals (c : Clause) : List Terminal :=
  (if c.negated then [.fixed .not] else []) ++ (c.name.terminals ++ c.test.terminals)

/-- The terminals of a clause with what introduces it. -/
def Clause.whereTerminals (c : Clause) : List Terminal :=
  .fixed .dot :: .fixed .where :: parenthesized c.terminals

/-- The terminals of a count. -/
def countTerminals (n : Name) : List Terminal :=
  .fixed .trace :: .fixed .dot :: .fixed .count :: parenthesized n.terminals

/-- The terminals of what a count is compared with. -/
def Operand.terminals : Operand → List Terminal
  | .number spelling => [⟨.number, spelling⟩]
  | .count name => countTerminals name

/-- The terminals of a check. -/
def Check.terminals : Check → List Terminal
  | .has name clauses =>
    .fixed .trace :: .fixed .dot :: .fixed .has ::
      (parenthesized name.terminals ++ clauses.flatMap Clause.whereTerminals)
  | .count name op operand => countTerminals name ++ op.terminal :: operand.terminals

/-- The terminals of a term. -/
def Term.terminals : Term → List Terminal
  | .check c => c.terminals
  | .not t => .fixed .not :: t.terminals

/-- The terminals of a rule. -/
def Chain.terminals (c : Chain) : List Terminal :=
  c.first.terminals ++ c.others.flatMap fun (op, t) => op.terminal :: t.terminals

/-! ## What a derivation denotes -/

/-- The literal of a scalar. -/
def Scalar.literal? : Scalar → Option Literal
  | .string content => some (.string content)
  | .number spelling => (Decimal.readDouble? spelling).map .number
  | .bool b => some (.bool b)

/-- The literal of a value behind a comparator: the string of a match is a
pattern. -/
def Value.literal? (op : Comparator) : Value → Option Literal
  | .scalar (.string content) =>
    if op = .matches then (Pattern.ofText content).toOption.map .pattern
    else some (.string content)
  | .scalar s => s.literal?
  | .list items => (items.mapM Scalar.literal?).map .list

/-- What is asked of an attribute. -/
def Test.meaning? : Test → Option TraceCheck.Test
  | .truthy => some .truthy
  | .compare op v => (v.literal? op).map (.compare op)

/-- The condition that a clause denotes. -/
def Clause.meaning? (c : Clause) : Option TraceCheck.Clause :=
  c.test.meaning?.map fun t => ⟨c.name.text, t, c.negated⟩

/-- What a count is compared with. -/
def Operand.meaning? : Operand → Option CountOperand
  | .number spelling => (Decimal.readNat? countBound spelling).map .literal
  | .count name => some (.count name.text)

/-- The expression of a check. -/
def Check.expr? : Check → Option Expr
  | .has name clauses => (clauses.mapM Clause.meaning?).map (.has name.text)
  | .count name op operand => operand.meaning?.map (.count name.text op)

/-- The expression of a term. -/
def Term.expr? : Term → Option Expr
  | .check c => c.expr?
  | .not t => t.expr?.map .not

/-- Join an expression with the next term of a chain. -/
def join (left : Option Expr) (next : LogicalOp × Term) : Option Expr := do
  return .binary next.1 (← left) (← next.2.expr?)

/-- The expression of a rule. Both operators bind alike and to the left. -/
def Chain.expr? (c : Chain) : Option Expr :=
  c.others.foldl join c.first.expr?

/-! ## Side conditions -/

/-- A value that may follow a comparator: a match needs a string that the guard
of patterns accepts, a search needs a string, and lists are for membership. -/
def Value.Fits (op : Comparator) : Value → Prop
  | .scalar (.string content) => op = .matches → ∃ p, Pattern.vet content = .ok p
  | .scalar _ => op ≠ .matches ∧ op ≠ .contains
  | .list _ => op = .in

/-- A value fits its comparator. -/
def Test.Fits : Test → Prop
  | .truthy => True
  | .compare op v => v.Fits op

/-- A number that is compared with a count has digits only and 64 bits. -/
def Operand.Fits : Operand → Prop
  | .number spelling =>
    (∀ c ∈ spelling.toList, Decimal.isDigit c = true) ∧
      Decimal.digitsValue spelling.toList < countBound
  | .count _ => True

/-- The clauses of a check fit, and counts are compared by size. -/
def Check.Fits : Check → Prop
  | .has _ clauses => ∀ c ∈ clauses, c.test.Fits
  | .count _ op operand => op.isRelational = true ∧ operand.Fits

namespace Term

/-- The number of `not` in front of the check. -/
def nots : Term → Nat
  | .check _ => 0
  | .not t => t.nots + 1

/-- The check of a term fits. -/
def Fits : Term → Prop
  | .check c => c.Fits
  | .not t => t.Fits

end Term

namespace Chain

/-- The terms from left to right. -/
def terms (c : Chain) : List Term :=
  c.first :: c.others.map (·.2)

/-- The terms fit, and no term nests too deep: each operator in front of it and
each `not` takes a level. -/
def Fits (maxDepth : Nat) (c : Chain) : Prop :=
  (∀ t ∈ c.terms, t.Fits) ∧
    ∀ i t, c.terms[i]? = some t → i + t.nots ≤ maxDepth

end Chain

end Grammar

end TraceCheck
