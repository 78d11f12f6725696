import TraceCheck.Json.Value
import TraceCheck.Mismatch
import TraceCheck.Text.Hex

/-!
# Places in JSON text

A `Cursor` is the text still to be read with its place in the whole. A `Reader`
moves a cursor forward and gives a value or a `Fault`; a fault found in the
data, not in the spelling, gets its place from the container that reports it.
-/

namespace TraceCheck.Json

/-- A place in a text: lines count from one, the column is the number of bytes
of the line in front. -/
structure Position where
  line : Nat
  column : Nat
  deriving DecidableEq, Repr

/-- What is wrong with the spelling of a JSON text. -/
inductive SyntaxError where
  | eofInList
  | eofInObject
  | eofInString
  | eofInValue
  | expectedColon
  | expectedListCommaOrEnd
  | expectedObjectCommaOrEnd
  | expectedWord
  | expectedValue
  | invalidEscape
  | invalidNumber
  | numberOutOfRange
  | controlCharacter
  | keyMustBeString
  | loneSurrogate
  | trailingComma
  | trailingCharacters
  | endOfHexEscape
  | tooDeep
  deriving DecidableEq

/-- The words for a spelling error. -/
def SyntaxError.message : SyntaxError → String
  | .eofInList => "EOF while parsing a list"
  | .eofInObject => "EOF while parsing an object"
  | .eofInString => "EOF while parsing a string"
  | .eofInValue => "EOF while parsing a value"
  | .expectedColon => "expected `:`"
  | .expectedListCommaOrEnd => "expected `,` or `]`"
  | .expectedObjectCommaOrEnd => "expected `,` or `\x7d`"
  | .expectedWord => "expected ident"
  | .expectedValue => "expected value"
  | .invalidEscape => "invalid escape"
  | .invalidNumber => "invalid number"
  | .numberOutOfRange => "number out of range"
  | .controlCharacter =>
    "control character (\\u0000-\\u001F) found while parsing a string"
  | .keyMustBeString => "key must be a string"
  | .loneSurrogate => "lone leading surrogate in hex escape"
  | .trailingComma => "trailing comma"
  | .trailingCharacters => "trailing characters"
  | .endOfHexEscape => "unexpected end of hex escape"
  | .tooDeep => "recursion limit exceeded"

/-- Why a value could not be read. -/
inductive Cause where
  | spelling (e : SyntaxError)
  | data (m : Mismatch)

/-- A cause and its place, which is known only for values read from text. -/
structure Fault where
  cause : Cause
  position : Option Position

/-- How JSON data is worded: an absent value is `null`. -/
def wording : Wording := ⟨"null", fun x => Decimal.compact x⟩

/-- The words for a fault. -/
def Fault.message (f : Fault) : String :=
  let text := match f.cause with
    | .spelling e => e.message
    | .data m => m.message wording
  match f.position with
  | none => text
  | some p => text ++ " at line " ++ toString p.line ++ " column " ++ toString p.column

/-- The fault at a place, unless it has one already. -/
def Fault.orAt (f : Fault) (p : Position) : Fault :=
  { f with position := some (f.position.getD p) }

/-- The number of levels that may be open, plus one. -/
def maxDepth : Nat := 128

/-- The text still to be read, its place, the levels that may be opened, and the number of
characters of the whole text. -/
structure Cursor where
  rest : List Char
  position : Position
  depth : Nat
  size : Nat

/-- The cursor at the start of a text. -/
def Cursor.ofText (text : List Char) : Cursor :=
  ⟨text, ⟨1, 0⟩, maxDepth, text.length⟩

/-- The place after a character. -/
def Position.after (p : Position) (c : Char) : Position :=
  if c = '\n' then ⟨p.line + 1, 0⟩ else ⟨p.line, p.column + c.utf8Size⟩

/-- The place after the first byte of the text still to be read. -/
def Cursor.nextPosition (s : Cursor) : Position :=
  match s.rest with
  | [] => s.position
  | '\n' :: _ => ⟨s.position.line + 1, 0⟩
  | _ => ⟨s.position.line, s.position.column + 1⟩

/-- Reading: the cursor moves on, and a fault leaves it where it arose. -/
abbrev Reader := EStateM Fault Cursor

/-- A spelling error at the cursor. -/
def failHere (e : SyntaxError) : Reader α := fun s =>
  .error ⟨.spelling e, some s.position⟩ s

/-- A spelling error at the next byte. -/
def failNext (e : SyntaxError) : Reader α := fun s =>
  .error ⟨.spelling e, some s.nextPosition⟩ s

/-- A mismatch whose place is still open. -/
def mismatch (m : Mismatch) : Reader α := fun s =>
  .error ⟨.data m, none⟩ s

/-- A mismatch at the cursor. -/
def mismatchHere (m : Mismatch) : Reader α := fun s =>
  .error ⟨.data m, some s.position⟩ s

/-- The next character, which stays. -/
def peek : Reader (Option Char) := fun s => .ok s.rest.head? s

/-- The next character, which is passed. -/
def next : Reader (Option Char) := fun s =>
  match s.rest with
  | [] => .ok none s
  | c :: rest => .ok (some c) { s with rest, position := s.position.after c }

/-- Pass one character. -/
def skip : Reader Unit := discard next

/-- The blanks between the tokens of JSON text. -/
def isGap (c : Char) : Bool :=
  c = ' ' || c = '\n' || c = '\t' || c = '\r'

/-- Pass the characters of a class. -/
def skipWhile (p : Char → Bool) : Reader Unit := fun s =>
  go s.rest s.position s
where
  /-- Walk over the rest of the text. -/
  go : List Char → Position → Reader Unit
    | [], pos, s => .ok () { s with rest := [], position := pos }
    | c :: rest, pos, s =>
      if p c then go rest (pos.after c) s
      else .ok () { s with rest := c :: rest, position := pos }

/-- Pass the blanks and look at the next character. -/
def peekToken : Reader (Option Char) := do
  skipWhile isGap
  peek

/-- Pass the letters of a word; its first letter has been passed. -/
def word : List Char → Reader Unit
  | [] => pure ()
  | c :: rest => do
    match ← next with
    | none => failHere .eofInValue
    | some d => if d = c then word rest else failHere .expectedWord

end TraceCheck.Json
