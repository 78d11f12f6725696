import TraceCheck.Expr.Grammar
import TraceCheck.Limits
import TraceCheck.Proofs.Decimal.Bits
import TraceCheck.Token.Lexer

/-!
# Grammatical expressions

Expressions can be built that no rule denotes: with names that are no names,
with values that their comparators do not take, or with a choice of terms that
the syntax has no parentheses for.  The grammatical ones are those that avoid
all of this and stay within the limits.
-/

namespace TraceCheck

variable (l : Limits)

/-! ## Names -/

/-- A word: a letter or an underscore, and then letters, digits and underscores.
Keywords are words too. -/
structure IsSegment (cs : List Char) : Prop where
  begins : cs.head?.any Lexeme.isWordStart = true
  continues : ∀ c ∈ cs, Lexeme.isWordChar c = true
  short : cs.length ≤ l.maxIdentifierLength

/-- The parts of a name between its dots. -/
def segments (name : String) : List (List Char) :=
  name.toList.splitOn '.'

/-- One or more words joined by dots. -/
def IsName (name : String) : Prop :=
  ∀ cs ∈ segments name, IsSegment l cs

instance (cs : List Char) : Decidable (IsSegment l cs) :=
  decidable_of_iff
    (cs.head?.any Lexeme.isWordStart = true ∧ cs.all Lexeme.isWordChar = true ∧
      cs.length ≤ l.maxIdentifierLength)
    ⟨fun h => ⟨h.1, List.all_eq_true.mp h.2.1, h.2.2⟩,
      fun h => ⟨h.begins, List.all_eq_true.mpr h.continues, h.short⟩⟩

instance (name : String) : Decidable (IsName l name) :=
  inferInstanceAs (Decidable (∀ cs ∈ segments name, IsSegment l cs))

/-! ## Values -/

/-- A string that is not too long, a number or a truth value. -/
inductive Literal.IsScalar : Literal → Prop
  | string (s : String) (hlen : s.length ≤ l.maxStringLength) : IsScalar (.string s)
  | number (x : Float) : IsScalar (.number x)
  | bool (b : Bool) : IsScalar (.bool b)

/-- The values of a comparator: a match takes a pattern that the guard accepts,
a search takes a string, membership takes a scalar or a list of scalars, and all
others take a scalar. -/
inductive Comparator.Takes : Comparator → Literal → Prop
  | pattern (p : Pattern) (hvet : ∃ program, Pattern.vet p.source = .ok program)
      (hlen : p.source.length ≤ l.maxStringLength) : Takes .matches (.pattern p)
  | search (s : String) (hlen : s.length ≤ l.maxStringLength) : Takes .contains (.string s)
  | list (items : List Literal) (hitems : ∀ x ∈ items, x.IsScalar l) : Takes .in (.list items)
  | scalar (op : Comparator) (x : Literal) (hmatches : op ≠ .matches)
      (hcontains : op ≠ .contains) (hx : x.IsScalar l) : Takes op x

/-- An attribute is compared with a value that the comparator takes. -/
def Test.IsWellFormed : Test → Prop
  | .truthy => True
  | .compare op x => op.Takes l x

/-- The attribute has a name, and its test is well-formed. -/
def Clause.IsWellFormed (c : Clause) : Prop :=
  IsName l c.name ∧ c.test.IsWellFormed l

/-- A whole number of 64 bits, or the name of the other spans. -/
def CountOperand.IsWellFormed : CountOperand → Prop
  | .literal n => n < countBound
  | .count name => IsName l name

/-! ## Terms -/

namespace Expr

/-- A check behind any number of `not`. Only the comparators of sizes compare
counts. -/
inductive IsTerm : Expr → Prop
  | has (name : String) (clauses : List Clause) (hname : IsName l name)
      (hclauses : ∀ c ∈ clauses, c.IsWellFormed l) : IsTerm (.has name clauses)
  | count (name : String) (op : Comparator) (operand : CountOperand) (hname : IsName l name)
      (hop : op.isRelational = true) (hoperand : operand.IsWellFormed l) :
      IsTerm (.count name op operand)
  | not (e : Expr) (he : IsTerm e) : IsTerm (.not e)

/-- The number of `not` in front of an expression. -/
def nots : Expr → Nat
  | not e => e.nots + 1
  | _ => 0

/-- What the operators on the left spine of an expression join, from left to
right. -/
def terms : Expr → List Expr
  | binary _ left right => left.terms ++ [right]
  | e => [e]

/-- The operators join terms from the left, and no term nests too deep. -/
structure IsWellFormed (e : Expr) : Prop where
  terms : ∀ t ∈ e.terms, t.IsTerm l
  depth : ∀ i t, e.terms[i]? = some t → i + t.nots ≤ l.maxRecursionDepth

end Expr

/-! ## Numbers -/

mutual

/-- The numbers in a literal. -/
def Literal.numbers : Literal → List Float
  | .number x => [x]
  | .list items => literalNumbers items
  | _ => []

/-- The numbers in literals. -/
def literalNumbers : List Literal → List Float
  | [] => []
  | x :: rest => x.numbers ++ literalNumbers rest

end

/-- The numbers that an attribute is compared with. -/
def Test.numbers : Test → List Float
  | .truthy => []
  | .compare _ x => x.numbers

namespace Expr

/-- The numbers that attributes are compared with. -/
def numbers : Expr → List Float
  | binary _ left right => left.numbers ++ right.numbers
  | not e => e.numbers
  | has _ clauses => clauses.flatMap (·.test.numbers)
  | count .. => []

/-- The expressions that rules denote: well-formed ones whose numbers are finite
and have no minus sign. -/
structure IsGrammatical (e : Expr) : Prop extends IsWellFormed l e where
  numbers : ∀ x ∈ e.numbers, Decimal.IsPlain x

end Expr

end TraceCheck
