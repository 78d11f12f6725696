import TraceCheck.Decimal.Shortest
import TraceCheck.Expr.Basic

/-!
# The text of a rule

Every expression has a text in the syntax of rules, with single blanks and no
parentheses around expressions. Numbers are written in full.
-/

namespace TraceCheck

/-- A character between quotes; quotes and backslashes follow a backslash. -/
def quotedChar (c : Char) : List Char :=
  if c = '"' ∨ c = '\\' then ['\\', c] else [c]

/-- A text between quotes. -/
def quotedLiteral (s : String) : String :=
  String.ofList ('"' :: s.toList.flatMap quotedChar ++ ['"'])

mutual

/-- The text of a literal. -/
def Literal.text : Literal → String
  | .string s => quotedLiteral s
  | .number x => Decimal.positional x
  | .bool b => if b then "true" else "false"
  | .list items => "[" ++ ", ".intercalate (literalTexts items) ++ "]"
  | .pattern p => quotedLiteral p.source

/-- The texts of literals. -/
def literalTexts : List Literal → List String
  | [] => []
  | x :: rest => x.text :: literalTexts rest

end

/-- The text of a clause. -/
def Clause.text (c : Clause) : String :=
  let test := match c.test with
    | .truthy => c.name
    | .compare op value => c.name ++ " " ++ op.name ++ " " ++ value.text
  if c.negated then "not " ++ test else test

/-- The text of a count. -/
def countText (spanName : String) : String :=
  "trace.count(" ++ spanName ++ ")"

/-- The text of what a count is compared with. -/
def CountOperand.text : CountOperand → String
  | .literal value => toString value
  | .count spanName => countText spanName

/-- The text of an expression. -/
def Expr.text : Expr → String
  | .binary op l r => l.text ++ " " ++ op.name ++ " " ++ r.text
  | .not e => "not " ++ e.text
  | .has spanName clauses =>
    "trace.has(" ++ spanName ++ ")" ++
      String.join (clauses.map fun c => ".where(" ++ c.text ++ ")")
  | .count spanName op operand =>
    countText spanName ++ " " ++ op.name ++ " " ++ operand.text

end TraceCheck
