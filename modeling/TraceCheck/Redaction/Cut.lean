import TraceCheck.Escape
import TraceCheck.Redaction.Basic

/-!
# Cutting long texts

A text is cut at a number of characters, but never inside a placeholder: such a
cut moves to the start of the placeholder. `displaySafe` is the form in which
messages quote foreign text.
-/

namespace TraceCheck.Redaction

/-- The start of the placeholder that a cut would split. `offset` characters
stand in front of the pieces. -/
def splitPlaceholder? (cut : Nat) : (offset : Nat) → List Piece → Option Nat
  | _, [] => none
  | offset, .plain _ :: rest => splitPlaceholder? cut (offset + 1) rest
  | offset, .found cs :: rest =>
    if offset < cut ∧ cut < offset + cs.length then some offset
    else splitPlaceholder? cut (offset + cs.length) rest

/-- How many characters stay when a text may have `most`; none if all stay. -/
def cutLength? (most : Nat) (cs : List Char) : Option Nat :=
  if cs.length ≤ most then none
  else some ((splitPlaceholder? most 0 (anyPlaceholder.pieces cs)).getD most)

/-- Cut a text and mark the cut. -/
def cutWith (marker : String) (most : Nat) (cs : List Char) : List Char :=
  match cutLength? most cs with
  | some n => cs.take n ++ marker.toList
  | none => cs

/-- The mark at the end of a message that was cut. -/
def truncationMarker : String := "... (truncated)"

/-- Cut a message and mark the cut. -/
def truncate (s : String) (most : Nat) : String :=
  String.ofList (cutWith truncationMarker most s.toList)

/-- A foreign text as a message quotes it: without secrets and control
characters, and cut. -/
def displaySafe (s : String) (most : Nat) : String :=
  String.ofList (cutWith "..." most ((redactChars s.toList).flatMap Escape.plainChar))

end TraceCheck.Redaction
