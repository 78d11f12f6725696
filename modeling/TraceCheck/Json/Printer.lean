import TraceCheck.Decimal.Shortest
import TraceCheck.Json.Value
import TraceCheck.Text.Hex

/-!
# Writing JSON text

`Json.compact` writes a value without blanks, `Json.pretty` with one member or
item a line and two spaces a level. Strings escape quotes, backslashes and the
characters below the space, and nothing else.
-/

namespace TraceCheck.Json

open TraceCheck.Text

/-- One character inside a JSON string. -/
def escapeChar (c : Char) : List Char :=
  match c with
  | '"' => ['\\', '"']
  | '\\' => ['\\', '\\']
  | '\x08' => ['\\', 'b']
  | '\x0c' => ['\\', 'f']
  | '\n' => ['\\', 'n']
  | '\r' => ['\\', 'r']
  | '\t' => ['\\', 't']
  | c => if c.toNat < 0x20 then ['\\', 'u'] ++ hexFixed .lower 4 c.toNat else [c]

/-- The text between the quotes of a JSON string. -/
def escapeChars (cs : List Char) : List Char :=
  cs.flatMap escapeChar

/-- A string with its quotes. -/
def quote (s : String) : String :=
  String.ofList ('"' :: escapeChars s.toList ++ ['"'])

/-- The text of a number; a double that is no number is `null`. -/
def Number.text : Number → String
  | .whole i => toString i
  | .double x => if x.isFinite then Decimal.compact x else "null"

/-- Items with separators between them and an opening and a closing mark. -/
def enclose (opening separator closing : String) (items : List String) : String :=
  opening ++ separator.intercalate items ++ closing

mutual

/-- A value as text without blanks. -/
def compact : Json → String
  | .null => "null"
  | .bool b => if b then "true" else "false"
  | .number n => n.text
  | .string s => quote s
  | .array items => enclose "[" "," "]" (compactItems items)
  | .object members => enclose "\x7b" "," "\x7d" (compactMembers members)

/-- The texts of the items of an array. -/
def compactItems : List Json → List String
  | [] => []
  | j :: rest => compact j :: compactItems rest

/-- The texts of the members of an object. -/
def compactMembers : List (String × Json) → List String
  | [] => []
  | (k, j) :: rest => (quote k ++ ":" ++ compact j) :: compactMembers rest

end

/-- A line break and the indentation of a level. -/
def newline (level : Nat) : String :=
  String.ofList ('\n' :: List.replicate (2 * level) ' ')

/-- Items one a line, inside brackets of their own lines. -/
def encloseLines (level : Nat) (opening closing : String) (items : List String) : String :=
  if items.isEmpty then opening ++ closing
  else enclose (opening ++ newline (level + 1)) ("," ++ newline (level + 1))
    (newline level ++ closing) items

mutual

/-- A value as text with one item a line, at a level of indentation. -/
def prettyAt (level : Nat) : Json → String
  | .null => "null"
  | .bool b => if b then "true" else "false"
  | .number n => n.text
  | .string s => quote s
  | .array items => encloseLines level "[" "]" (prettyItems (level + 1) items)
  | .object members =>
    encloseLines level "\x7b" "\x7d" (prettyMembers (level + 1) members)

/-- The texts of the items of an array. -/
def prettyItems (level : Nat) : List Json → List String
  | [] => []
  | j :: rest => prettyAt level j :: prettyItems level rest

/-- The texts of the members of an object. -/
def prettyMembers (level : Nat) : List (String × Json) → List String
  | [] => []
  | (k, j) :: rest => (quote k ++ ": " ++ prettyAt level j) :: prettyMembers level rest

end

/-- A value as text with one item a line. -/
def pretty (j : Json) : String := prettyAt 0 j

mutual

/-- The value with the members of every object in key order, one a key. -/
def sorted : Json → Json
  | .array items => .array (sortedItems items)
  | .object members => .object (sortMembers (sortedMembers members))
  | j => j

/-- The items of an array, each sorted. -/
def sortedItems : List Json → List Json
  | [] => []
  | j :: rest => sorted j :: sortedItems rest

/-- The members of an object, the value of each sorted. -/
def sortedMembers : List (String × Json) → List (String × Json)
  | [] => []
  | (k, j) :: rest => (k, sorted j) :: sortedMembers rest

end

end TraceCheck.Json
