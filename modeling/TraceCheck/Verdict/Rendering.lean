import TraceCheck.Redaction.Cut
import TraceCheck.Verdict

/-!
# Showing verdicts

Before a message is shown, its secrets are replaced, it is cut, and it is escaped
for the surface. Placeholders stand as they are.
-/

namespace TraceCheck

namespace Surface

/-- A part of a message on a surface: only placeholders are not escaped. -/
def renderPiece (s : Surface) : Redaction.Piece → List Char
  | .plain c => s.escapeChar c
  | .found placeholder => placeholder

/-- A message of at most so many characters on a surface. -/
def renderMessage (s : Surface) (most : Nat) (message : String) : String :=
  let shown := Redaction.truncate (Redaction.redact message) most
  String.ofList ((Redaction.anyPlaceholder.pieces shown.toList).flatMap s.renderPiece)

end Surface

/-- A diagnostic on a surface. -/
def Diagnostic.rendered (s : Surface) (most : Nat) (d : Diagnostic) : Diagnostic :=
  { d with
    message := s.renderMessage most d.message
    suggestion := d.suggestion.map (s.renderMessage most) }

/-- A verdict on a surface; its expression stays as it is. -/
def Verdict.rendered (s : Surface) (most : Nat) (v : Verdict) : Verdict :=
  { v with
    errors := v.errors.map (Diagnostic.rendered s most)
    warnings := v.warnings.map (Diagnostic.rendered s most) }

end TraceCheck
