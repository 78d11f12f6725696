/-!
# Blank characters

The characters with the Unicode property `White_Space`, and trimming and
splitting by them.
-/

namespace TraceCheck.Text

/-- The characters with the Unicode property `White_Space`. -/
def isBlank (c : Char) : Bool :=
  let n := c.toNat
  (9 ≤ n && n ≤ 13) || n == 0x20 || n == 0x85 || n == 0xA0 || n == 0x1680 ||
    (0x2000 ≤ n && n ≤ 0x200A) || n == 0x2028 || n == 0x2029 || n == 0x202F ||
    n == 0x205F || n == 0x3000

/-- Drop the blanks at the end. -/
def trimEnd (cs : List Char) : List Char :=
  (cs.reverse.dropWhile isBlank).reverse

/-- Drop the blanks at both ends. -/
def trim (cs : List Char) : List Char :=
  trimEnd (cs.dropWhile isBlank)

/-- The text without the blanks at its ends. -/
def trimmed (s : String) : String :=
  String.ofList (trim s.toList)

/-- Number of bytes of the UTF-8 form. -/
def byteSize (cs : List Char) : Nat :=
  cs.foldl (fun n c => n + c.utf8Size) 0

/-- The lines of a text, each without its line feed and the carriage return
before it; a text that ends in a line feed has no further, empty line. -/
def lines (cs : List Char) : List (List Char) :=
  go cs []
where
  /-- `line` holds the characters of the current line, last one first. -/
  go : List Char → List Char → List (List Char)
    | [], [] => []
    | [], line => [line.reverse]
    | '\n' :: rest, line => (dropReturn line).reverse :: go rest []
    | c :: rest, line => go rest (c :: line)
  /-- Drop the carriage return that ends a line read backwards. -/
  dropReturn : List Char → List Char
    | '\r' :: line => line
    | line => line

end TraceCheck.Text
