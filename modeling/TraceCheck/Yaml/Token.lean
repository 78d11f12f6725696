import TraceCheck.Yaml.Scalar

/-!
# Tokens of YAML text

Indentation shows as tokens that open and close collections, and a key that stands
in front of its colon without a mark gets one.
-/

namespace TraceCheck.Yaml

/-- A token. -/
inductive Token where
  | streamStart
  | streamEnd
  | version (major minor : Nat)
  | tagDirective (handle lead : String)
  | documentStart
  | documentEnd
  | blockSequenceStart
  | blockMappingStart
  | blockEnd
  | flowSequenceStart
  | flowSequenceEnd
  | flowMappingStart
  | flowMappingEnd
  | blockEntry
  | flowEntry
  | key
  | value
  | alias (name : String)
  | anchor (name : String)
  | tag (handle suffix : String)
  | scalar (style : ScalarStyle) (content : String)
  deriving DecidableEq, Repr

/-- A token with the places where it starts and ends. -/
structure Located where
  token : Token
  start : Place
  stop : Place
  deriving DecidableEq, Repr

/-- A place that may turn out to hold a key: the number of the token there, and
whether nothing but a key may stand there. -/
structure KeyPlace where
  token : Nat
  place : Place
  required : Bool
  deriving DecidableEq, Repr

/-- What is known while a text is cut into tokens. -/
structure Lexing where
  cursor : Cursor
  /-- The tokens so far, last one first. -/
  read : List Located
  /-- The number of the tokens so far. -/
  count : Nat
  /-- The indentation of the current collection, negative outside of all. -/
  indent : Int
  /-- The indentations of the collections around it, innermost first. -/
  outer : List Int
  /-- Whether a key may start here. -/
  keyAllowed : Bool
  /-- The place that may hold a key, at each level of brackets, innermost first. -/
  keys : List (Option KeyPlace)

namespace Lexing

/-- The start of a text. -/
def ofText (cs : List Char) : Lexing :=
  { cursor := .ofText cs
    read := [⟨.streamStart, .start, .start⟩]
    count := 1
    indent := -1
    outer := []
    keyAllowed := true
    keys := [none] }

/-- Whether the place is inside of brackets. -/
def inFlow (s : Lexing) : Bool :=
  1 < s.keys.length

/-- Add a token. -/
def add (s : Lexing) (t : Token) (start stop : Place) : Lexing :=
  { s with read := ⟨t, start, stop⟩ :: s.read, count := s.count + 1 }

/-- Add a token in front of the token with a number. -/
def insert (s : Lexing) (number : Nat) (t : Token) (place : Place) : Lexing :=
  let behind := s.count - number
  { s with
    read := s.read.take behind ++ ⟨t, place, place⟩ :: s.read.drop behind
    count := s.count + 1 }

/-- Add a token for the next characters and pass them. -/
def addPassing (s : Lexing) (t : Token) (characters : Nat) : Lexing :=
  let cursor := s.cursor.pass characters
  { s with cursor }.add t s.cursor.place cursor.place

/-- Characters that a key may have in front of its colon. -/
def maxKeyLength : Nat := 1024

/-- Whether a key can no longer start at a place, because its colon would be in
another line or too far away. -/
def isStale (s : Lexing) (k : KeyPlace) : Bool :=
  k.place.line < s.cursor.place.line || k.place.index + maxKeyLength < s.cursor.place.index

/-- The error that a place should have held a key. -/
def missingColon (s : Lexing) (k : KeyPlace) : SyntaxError :=
  s.cursor.errorIn "while scanning a simple key" k.place "could not find expected ':'"

/-- Forget the places that can no longer hold a key. -/
def dropStaleKeys (s : Lexing) : Except SyntaxError Lexing :=
  -- the outermost level is looked at first
  match s.keys.reverse.findSome? fun k => k.filter fun k => k.required && s.isStale k with
  | some k => .error (s.missingColon k)
  | none => .ok { s with keys := s.keys.map fun k => k.filter fun k => !s.isStale k }

/-- Forget the place that may hold a key at the current level. -/
def dropKey (s : Lexing) : Except SyntaxError Lexing :=
  match s.keys with
  | some k :: rest =>
    if k.required then .error (s.missingColon k) else .ok { s with keys := none :: rest }
  | _ => .ok s

/-- Note that a key may start here, if that is allowed. -/
def noteKey (s : Lexing) : Except SyntaxError Lexing :=
  if s.keyAllowed then do
    let s ← s.dropKey
    let required := !s.inFlow && s.indent == s.cursor.place.column
    return { s with keys := some ⟨s.count, s.cursor.place, required⟩ :: s.keys.tail }
  else .ok s

/-- Close the collections that are indented by more than a column. -/
def unroll (s : Lexing) (column : Int) : Lexing :=
  if s.inFlow then s
  else go s.outer s
where
  /-- The collections around the current one are those of the list. -/
  go : List Int → Lexing → Lexing
    | [], s => s
    | indent :: outer, s =>
      if column < s.indent then
        go outer ({ s with indent, outer }.add .blockEnd s.cursor.place s.cursor.place)
      else s

/-- Open a collection at a column, unless it is open already; its token goes in front
of the token with a number. -/
def roll (s : Lexing) (column : Nat) (number : Nat) (t : Token) (place : Place) : Lexing :=
  if s.inFlow then s
  else if s.indent < column then
    let s := { s with indent := column, outer := s.indent :: s.outer }
    s.insert number t place
  else s

end Lexing

end TraceCheck.Yaml
