/-!
# Places in YAML text

A `Cursor` is the text still to be read with its place in the whole. Lines end with
any of five breaks, of which a carriage return and a line feed together are one.
-/

namespace TraceCheck.Yaml

/-- A place in a text: characters before it, lines before it, and characters of its
line before it. -/
structure Place where
  index : Nat
  line : Nat
  column : Nat
  deriving DecidableEq, Repr

/-- The start of a text. -/
def Place.start : Place := ⟨0, 0, 0⟩

/-- Whether a place is not the start of the text. -/
def Place.isInner (p : Place) : Bool :=
  p.line != 0 || p.column != 0

/-- A place in words, counted from one. -/
def Place.text (p : Place) : String :=
  "line " ++ toString (p.line + 1) ++ " column " ++ toString (p.column + 1)

/-- What is wrong with the spelling of a text, where, and what was being read from
which place on. -/
structure SyntaxError where
  problem : String
  place : Place
  context : Option (String × Place) := none
  deriving DecidableEq, Repr

/-- The words for a spelling error. The place where reading started is named if it
is another one. -/
def SyntaxError.message (e : SyntaxError) : String :=
  let place := if e.place.isInner then " at " ++ e.place.text else ""
  let context := match e.context with
    | none => ""
    | some (what, start) =>
      ", " ++ what ++
        if start.isInner ∧ (start.line ≠ e.place.line ∨ start.column ≠ e.place.column) then
          " at " ++ start.text
        else ""
  e.problem ++ place ++ context

/-- An error that makes a text unreadable, with the number of bytes in front of it. -/
def SyntaxError.atByte (problem : String) (before : Nat) : SyntaxError :=
  let place := if before = 0 then "" else " at position " ++ toString before
  { problem := problem ++ place, place := .start }

/-- The text still to be read, with its place, and the number of characters of the whole
text. -/
structure Cursor where
  rest : List Char
  place : Place
  size : Nat

/-- The start of a text. -/
def Cursor.ofText (cs : List Char) : Cursor := ⟨cs, .start, cs.length⟩

/-- More than the number of characters still to be read, as a bound for loops. -/
def Cursor.loopBound (s : Cursor) : Nat := s.size + 1

/-! ## Characters -/

/-- Spaces and tabs. -/
def isBlank (c : Char) : Bool :=
  c == ' ' || c == '\t'

/-- The characters that break lines. -/
def isBreak (c : Char) : Bool :=
  c == '\n' || c == '\r' || c == '\u0085' || c == '\u2028' || c == '\u2029'

/-- The characters of names. -/
def isNameChar (c : Char) : Bool :=
  c.isAlphanum || c == '_' || c == '-'

/-- Whether a text begins with a blank or a break, or is at its end. -/
def atGap : List Char → Bool
  | [] => true
  | c :: _ => isBlank c || isBreak c

/-- Whether a text begins with a break, or is at its end. -/
def atLineEnd : List Char → Bool
  | [] => true
  | c :: _ => isBreak c

/-- The break at the start of a text as it counts in a scalar, and its number of
characters. -/
def lineBreak? : List Char → Option (Char × Nat)
  | '\r' :: '\n' :: _ => some ('\n', 2)
  | c :: _ =>
    if c = '\u2028' ∨ c = '\u2029' then some (c, 1)
    else if isBreak c then some ('\n', 1)
    else none
  | [] => none

namespace Cursor

/-- Pass some characters of a line. -/
def pass (n : Nat) (s : Cursor) : Cursor :=
  { s with
    rest := s.rest.drop n
    place := { s.place with index := s.place.index + n, column := s.place.column + n } }

/-- Pass the break at the start, if there is one. -/
def passBreak (s : Cursor) : Cursor :=
  match lineBreak? s.rest with
  | some (_, n) =>
    { s with rest := s.rest.drop n, place := ⟨s.place.index + n, s.place.line + 1, 0⟩ }
  | none => s

/-- The characters at the start that satisfy a condition, all in one line. -/
def run (p : Char → Bool) (s : Cursor) : List Char :=
  s.rest.takeWhile p

/-- Pass the characters at the start that satisfy a condition, all in one line. -/
def passRun (p : Char → Bool) (s : Cursor) : Cursor :=
  s.pass (s.run p).length

/-- Pass blanks and a comment, up to the end of the line. -/
def passComment (s : Cursor) : Cursor :=
  let s := s.passRun isBlank
  if s.rest.head? = some '#' then s.passRun (fun c => !isBreak c) else s

/-- Whether a document begins or ends at the place. -/
def atDocumentMark (s : Cursor) : Bool :=
  s.place.column == 0 &&
    (s.rest.take 3 == ['-', '-', '-'] || s.rest.take 3 == ['.', '.', '.']) &&
    atGap (s.rest.drop 3)

/-- A spelling error at the place. -/
def error (s : Cursor) (problem : String) : SyntaxError :=
  ⟨problem, s.place, none⟩

/-- A spelling error at the place, in something that began at another place. -/
def errorIn (s : Cursor) (what : String) (start : Place) (problem : String) : SyntaxError :=
  ⟨problem, s.place, some (what, start)⟩

end Cursor

end TraceCheck.Yaml
