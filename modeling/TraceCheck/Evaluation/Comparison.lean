import TraceCheck.Decimal.Reader
import TraceCheck.Expr.Basic
import TraceCheck.Trace.Value

/-!
# Comparing attributes with literals

A value and a literal of different types are compared as numbers, truth values or
texts where that makes sense. A comparison that makes no sense does not hold, and
neither does its opposite.
-/

namespace TraceCheck

/-- Numbers that differ by less than this are equal. -/
def tolerance : Float := 1e-4

/-- Whether two numbers are equal within the tolerance. -/
def nearlyEqual (x y : Float) : Bool :=
  (x - y).abs < tolerance

/-- The finite number that a text spells, blanks around it aside. -/
def spelledNumber? (s : String) : Option Float :=
  (Decimal.readDouble? (Text.trimmed s)).filter (·.isFinite)

/-- Whether a text occurs in another one. -/
def occursIn (part : List Char) : List Char → Bool
  | [] => part.isEmpty
  | c :: rest => part.isPrefixOf (c :: rest) || occursIn part rest

namespace Value

/-- The number that a value is compared as. -/
def comparable? : Value → Option Float
  | .string s => spelledNumber? s
  | v => v.number?

/-- Whether a value equals a literal; none if the two cannot be compared. -/
def equals? (v : Value) (x : Literal) : Option Bool :=
  match v, x with
  | .string a, .string b => some (a == b)
  | .string a, .number n => (spelledNumber? a).map (nearlyEqual · n)
  | .string a, .bool b =>
    if isWordIn a "true" then some b
    else if isWordIn a "false" then some (!b)
    else none
  | .boolean a, .bool b => some (a == b)
  | .boolean a, .string b => some (isWordIn b (boolName a))
  | v, .number n => v.number?.map (nearlyEqual · n)
  | v, .string b =>
    v.number?.map fun a =>
      match spelledNumber? b with
      | some n => nearlyEqual a n
      | none => v.text == b
  | _, _ => none

/-- Whether a value and a literal are equal. -/
def equals (v : Value) (x : Literal) : Bool :=
  v.equals? x == some true

end Value

/-- The number that a literal is compared as. -/
def Literal.comparable? : Literal → Option Float
  | .number x => some x
  | .string s => spelledNumber? s
  | _ => none

namespace Value

/-- Whether a value and a literal are numbers in some order. -/
def ordered (v : Value) (x : Literal) (order : Float → Float → Bool) : Bool :=
  match v.comparable?, x.comparable? with
  | some a, some b => order a b
  | _, _ => false

/-- Whether a value is in a list, or a literal among the items of a value. -/
def isMember (v : Value) (x : Literal) : Bool :=
  match v, x with
  | v, .list items => items.any v.equals
  | .list values, x => values.any (·.equals x)
  | v, x => v.equals x

mutual

/-- Whether a pattern matches the text of a value, or of an item at any depth. -/
def matchesPattern (p : Pattern) : Value → Bool
  | .null => false
  | .list items => anyMatches p items
  | .string s => p.isMatch s
  | .integer i => p.isMatch (text (.integer i))
  | .double x => p.isMatch (text (.double x))
  | .boolean b => p.isMatch (text (.boolean b))

/-- Whether a pattern matches one of some values. -/
def anyMatches (p : Pattern) : List Value → Bool
  | [] => false
  | v :: rest => v.matchesPattern p || anyMatches p rest

end

/-- Whether a text occurs in the text of a value, or equals an item of it. -/
def containsText (v : Value) (part : String) : Bool :=
  match v with
  | .null => false
  | .list items => items.any (·.equals (.string part))
  | v => occursIn part.toList v.text.toList

/-- Whether a value compares with a literal. -/
def satisfies (v : Value) (op : Comparator) (x : Literal) : Bool :=
  match op with
  | .eq => v.equals x
  | .notEq => v.equals? x == some false
  | .gt => v.ordered x fun a b => b < a
  | .gte => v.ordered x fun a b => b ≤ a || nearlyEqual a b
  | .lt => v.ordered x fun a b => a < b
  | .lte => v.ordered x fun a b => a ≤ b || nearlyEqual a b
  | .in => v.isMember x
  | .matches =>
    match x with
    | .pattern p => v.matchesPattern p
    | _ => false
  | .contains =>
    match x with
    | .string part => v.containsText part
    | _ => false

end Value

end TraceCheck
