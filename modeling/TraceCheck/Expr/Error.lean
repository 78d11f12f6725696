import TraceCheck.Diagnostic
import TraceCheck.Expr.Lint
import TraceCheck.Redaction.Cut
import TraceCheck.Token.Basic

/-!
# What is wrong with the tokens of a rule

The errors that reading the tokens of a rule can have, and the findings that it
notes on its way: errors at a token, and lints about a range that starts at one.
-/

namespace TraceCheck

/-- What the syntax requires at a place. -/
inductive Expectation where
  | trace
  | dot
  | check
  | openParen
  | closeParen
  | where
  | count
  | spanName
  | attributeName
  | comparator
  | value
  | number
  | commaOrBracket
  deriving DecidableEq, Repr

namespace Expectation

/-- The words for what is required. -/
def text : Expectation → String
  | .trace => "'trace'"
  | .dot => "'.'"
  | .check => "'has' or 'count'"
  | .openParen => "'('"
  | .closeParen => "')'"
  | .where => "'where'"
  | .count => "'count'"
  | .spanName => "operation name"
  | .attributeName => "attribute name"
  | .comparator => "comparison operator"
  | .value => "value"
  | .number => "number"
  | .commaOrBracket => "',' or ']'"

/-- How to provide what is required. -/
def hint : Expectation → Option String
  | .trace => some "Rules start with trace.has(...) or trace.count(...)"
  | .check => some "Use trace.has(name) or trace.count(name)"
  | .spanName => some "Name the span operation, e.g. payment.charge"
  | .attributeName => some "Name the span attribute, e.g. http.status_code"
  | .comparator => some "Use one of == != > >= < <= in matches contains"
  | .value => some "Use a quoted string, a number, true or false"
  | .closeParen => some "Close the parenthesis"
  | .openParen => some "Add an opening parenthesis"
  | _ => none

end Expectation

/-- An error in the tokens of a rule. -/
inductive ParseError where
  /-- There are no tokens. -/
  | empty
  /-- Something else is required than what was found. -/
  | expected (what : Expectation) (found : String)
  /-- A complete expression is followed by more. -/
  | trailing (found : String)
  /-- The expression nests deeper than the limit. -/
  | tooDeep (limit : Nat)
  /-- The time is used up. -/
  | timeout (limitMs : Nat)
  /-- A pattern is refused. -/
  | pattern (e : PatternError)
  /-- A count is compared with neither a whole number nor a count. -/
  | countOperand (found : String)
  /-- A comparator that does not compare counts. -/
  | countOperator (op : Comparator)
  /-- A list with another comparator than membership. -/
  | listNotAllowed (op : Comparator)
  /-- A comparator that needs a string. -/
  | stringRequired (op : Comparator)
  /-- A list in a list. -/
  | nestedList
  deriving DecidableEq, Repr

namespace ParseError

/-- The words for an error. -/
def message : ParseError → String
  | .empty => "Rule expression is empty"
  | .expected what found => "Expected " ++ what.text ++ " but found " ++ found
  | .trailing found => "Unexpected token " ++ found ++ " after expression"
  | .tooDeep limit =>
    "Expression is too deeply nested (maximum depth is " ++ toString limit ++ ")"
  | .timeout limitMs => "Rule parsing timed out after " ++ toString limitMs ++ "ms"
  | .pattern e => "Invalid pattern for 'matches': " ++ e.message
  | .countOperand found =>
    "Count must be compared with a whole number or trace.count(...) but found " ++ found
  | .countOperator op =>
    "Operator '" ++ op.name ++ "' cannot be used with trace.count(...)"
  | .listNotAllowed op =>
    "List values can only be used with 'in', not '" ++ op.name ++ "'"
  | .stringRequired op => "Operator '" ++ op.name ++ "' requires a string value"
  | .nestedList => "List elements must be strings, numbers or booleans"

/-- What to do about an error. -/
def suggestion : ParseError → Option String
  | .empty => some "Write a rule such as trace.has(payment.charge)"
  | .expected what _ => what.hint
  | .trailing _ => some "Join expressions with 'and' or 'or'"
  | .tooDeep _ => some "Split the rule into several smaller rules"
  | .timeout _ => none
  | .pattern _ => some "Check the regular expression syntax"
  | .countOperand _ =>
    some "Use a number like 5 or another count like trace.count(http.response)"
  | .countOperator _ => some "Use one of == != > >= < <="
  | .listNotAllowed _ => some "Use 'in' to test membership in a list"
  | .stringRequired _ => some "Wrap the value in double quotes"
  | .nestedList => some "Flatten the list"

end ParseError

namespace Token

/-- The number of characters of a token that messages quote at most. -/
def quotedChars : Nat := 60

/-- A token as messages name it. -/
def describe (t : Token) : String :=
  match t.kind with
  | .eof => "end of input"
  | .string => "\"" ++ Redaction.displaySafe t.text quotedChars ++ "\""
  | _ => "'" ++ Redaction.displaySafe t.text quotedChars ++ "'"

end Token

/-- What reading the tokens of a rule notes. -/
inductive Finding where
  | error (e : ParseError) (place : Token)
  | lint (l : Lint) (first : Token) (length : Nat)
  deriving DecidableEq, Repr

namespace Finding

/-- Whether a finding makes the rule invalid. -/
def isError : Finding → Bool
  | .error .. => true
  | .lint .. => false

/-- The finding as a diagnostic. -/
def diagnostic : Finding → Diagnostic
  | .error e t => .spanning .error t.line t.column t.length e.message e.suggestion
  | .lint l t length => .spanning l.level t.line t.column length l.message l.suggestion

end Finding

end TraceCheck
