import TraceCheck.Json.Printer
import TraceCheck.Text.Blank

/-!
# Values of attributes

The values that spans carry. Whole numbers are those of 64 bits with a sign;
other numbers are doubles, and nested objects are kept as their JSON text.
-/

namespace TraceCheck

/-- The value of an attribute. -/
inductive Value where
  | string (s : String)
  | integer (i : Int)
  | double (x : Float)
  | boolean (b : Bool)
  | list (items : List Value)
  | null

namespace Value

/-- Whether a whole number has 64 bits with a sign. -/
def isInteger (i : Int) : Bool :=
  -0x8000000000000000 ≤ i && i < 0x8000000000000000

mutual

/-- The value that a structured value stands for. -/
def ofJson : Json → Value
  | .string s => .string s
  | .number (.whole i) => if isInteger i then .integer i else .double (Decimal.ofInt i)
  | .number (.double x) => .double x
  | .bool b => .boolean b
  | .array items => .list (ofJsonItems items)
  | .object members => .string (Json.compact (Json.sorted (.object members)))
  | .null => .null

/-- The values that structured values stand for. -/
def ofJsonItems : List Json → List Value
  | [] => []
  | j :: rest => ofJson j :: ofJsonItems rest

end

mutual

/-- The value as a structured value. -/
def json : Value → Json
  | .string s => .string s
  | .integer i => .int i
  | .double x => .double x
  | .boolean b => .bool b
  | .list items => .array (jsonItems items)
  | .null => .null

/-- Values as structured values. -/
def jsonItems : List Value → List Json
  | [] => []
  | v :: rest => v.json :: jsonItems rest

end

/-- The value as a number, if it is one. -/
def number? : Value → Option Float
  | .integer i => some (Decimal.ofInt i)
  | .double x => some x
  | _ => none

mutual

/-- The text that patterns and searches see. -/
def text : Value → String
  | .string s => s
  | .integer i => toString i
  | .double x => Decimal.positional x
  | .boolean b => if b then "true" else "false"
  | .list items => ",".intercalate (texts items)
  | .null => ""

/-- The texts of values. -/
def texts : List Value → List String
  | [] => []
  | v :: rest => v.text :: texts rest

end

/-- The word of a truth value. -/
def boolName (b : Bool) : String :=
  if b then "true" else "false"

/-- Whether a text without the blanks around it is a word, in any case. -/
def isWordIn (s : String) (word : String) : Bool :=
  (Text.trim s.toList).map Char.toLower == word.toList

/-- Whether the value counts as true: not zero, not empty, not false. -/
def isTruthy : Value → Bool
  | .boolean b => b
  | .string s => !((Text.trim s.toList).isEmpty || isWordIn s "false" || isWordIn s "0")
  | .integer i => i != 0
  | .double x => x != 0 && !x.isNaN
  | .list items => !items.isEmpty
  | .null => false

end Value

end TraceCheck
