/-!
# Shapes of text

A `Shape` recognises a piece of text at a place. `Shape.pieces` cuts a text from
left to right into the pieces that the shape recognises, none overlapping, and
the single characters between them.
-/

namespace TraceCheck.Redaction

/-- What a shape says at a place: it recognises a piece of some length, or no
piece begins at any of the next few places. -/
inductive Probe where
  | hit (length : Nat)
  | miss (places : Nat)
  deriving DecidableEq, Repr

/-- A shape looks at the character before a place and the text after it. -/
abbrev Shape := Option Char → List Char → Probe

/-- A part of a text: a character on its own, or a piece that a shape recognised. -/
inductive Piece where
  | plain (c : Char)
  | found (cs : List Char)
  deriving DecidableEq, Repr

/-- The characters of a part. -/
def Piece.chars : Piece → List Char
  | .plain c => [c]
  | .found cs => cs

/-- What to do with the next characters: take them as they are, pass them as part
of a recognised piece, or ask the shape. -/
inductive Step where
  | copy (places : Nat)
  | pass (places : Nat)
  | ask

/-- The step after `n` more places. -/
def Step.copying : Nat → Step
  | 0 => .ask
  | n => .copy n

/-- The step after `n` more characters of a recognised piece. -/
def Step.passing : Nat → Step
  | 0 => .ask
  | n => .pass n

/-- Cut a text, after the character `before`, starting with a step. -/
def Shape.cut (shape : Shape) : Option Char → Step → List Char → List Piece
  | _, _, [] => []
  | _, .copy n, c :: rest => .plain c :: shape.cut (some c) (.copying (n - 1)) rest
  | _, .pass n, c :: rest => shape.cut (some c) (.passing (n - 1)) rest
  | before, .ask, c :: rest =>
    match shape before (c :: rest) with
    | .miss n => .plain c :: shape.cut (some c) (.copying (n - 1)) rest
    | .hit n => .found ((c :: rest).take (max 1 n)) :: shape.cut (some c) (.passing (n - 1)) rest

/-- The pieces of a text. -/
def Shape.pieces (shape : Shape) (cs : List Char) : List Piece :=
  shape.cut none .ask cs

/-- Replace every piece that a shape recognises. -/
def Shape.replace (shape : Shape) (f : List Char → List Char) (cs : List Char) : List Char :=
  (shape.pieces cs).flatMap fun
    | .plain c => [c]
    | .found piece => f piece

end TraceCheck.Redaction
