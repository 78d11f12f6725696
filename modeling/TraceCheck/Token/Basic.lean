/-!
# Tokens

The words, operators, marks and literals of rule texts. A token knows its place
and the number of bytes that it takes up in the text.
-/

namespace TraceCheck

/-- The kinds of tokens. -/
inductive TokenKind where
  | trace | has | where | count | and | or | not | true | false | in | matches
  | eq | notEq | gt | gte | lt | lte
  | lParen | rParen | lBracket | rBracket | dot | comma
  | identifier | string | number
  | eof
  deriving DecidableEq, Repr

namespace TokenKind

/-- The kinds that are fixed words. -/
def keywords : List TokenKind :=
  [.trace, .has, .where, .count, .and, .or, .not, .true, .false, .in, .matches]

/-- How a kind is spelled, or described if it has no fixed spelling. -/
def literal : TokenKind → String
  | .trace => "trace"
  | .has => "has"
  | .where => "where"
  | .count => "count"
  | .and => "and"
  | .or => "or"
  | .not => "not"
  | .true => "true"
  | .false => "false"
  | .in => "in"
  | .matches => "matches"
  | .eq => "=="
  | .notEq => "!="
  | .gt => ">"
  | .gte => ">="
  | .lt => "<"
  | .lte => "<="
  | .lParen => "("
  | .rParen => ")"
  | .lBracket => "["
  | .rBracket => "]"
  | .dot => "."
  | .comma => ","
  | .identifier => "identifier"
  | .string => "string"
  | .number => "number"
  | .eof => "end of input"

/-- The keyword that a word is. -/
def keyword? (word : String) : Option TokenKind :=
  keywords.find? fun k => k.literal = word

/-- Words can be parts of names: identifiers, and keywords too. -/
def isWord (k : TokenKind) : Bool :=
  k = .identifier || keywords.contains k

end TokenKind

/-- A token of a rule text. The text of a string is its content, with quotes and
backslashes no longer escaped. -/
structure Token where
  kind : TokenKind
  text : String
  line : Nat
  column : Nat
  /-- Bytes in the text of the rule. -/
  length : Nat
  deriving DecidableEq, Repr

/-- The token behind the last one. -/
def Token.eof (line column : Nat) : Token :=
  ⟨.eof, "", line, column, 0⟩

end TraceCheck
