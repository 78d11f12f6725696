import TraceCheck.Proofs.Rendering.Json
import TraceCheck.Proofs.Rendering.Markdown
import TraceCheck.Proofs.Rendering.Script

/-!
# Messages on a surface

A message is shown without its secrets and cut to a length.  What a surface shows can
be decoded again, to the last character, and cannot break out of the place where it
stands, even though the placeholders in it are not escaped.
-/

namespace TraceCheck.Rendering

open TraceCheck.Redaction

/-- A surface that leaves the characters of placeholders alone escapes a text character
by character. -/
theorem flatMap_renderPiece_eq
    {s : Surface} (hs : ∀ c ∈ placeholderChars, s.escapeChar c = [c]) (text : List Char) :
    (anyPlaceholder.pieces text).flatMap s.renderPiece = text.flatMap s.escapeChar := by
  have hpiece : ∀ piece ∈ anyPlaceholder.pieces text,
      s.renderPiece piece = piece.chars.flatMap s.escapeChar := by
    intro piece hmem
    cases piece with
    | plain c => exact (List.flatMap_singleton _ _).symm
    | found p =>
        have hp := isPlaceholder_of_found hmem
        have hself : p.flatMap s.escapeChar = p.flatMap fun c => [c] :=
          List.flatMap_congr fun c hc => hs c (hp.mem_placeholderChars hc)
        change p = p.flatMap s.escapeChar
        rw [hself, List.flatMap_singleton']
  rw [List.flatMap_congr hpiece, ← List.flatMap_assoc, Shape.flatMap_chars_pieces]

/-- Every message, cut to any length, is encoded on each surface with escapes of its
own: decoding what is shown gives the message without its secrets back, as it was cut. -/
theorem renderMessage_encodes (message : String) (most : Nat) :
    let shown := (truncate (redact message) most).toList
    EncodesHtml shown (Surface.html.renderMessage most message).toList ∧
      EncodesScript shown (Surface.javaScript.renderMessage most message).toList ∧
      EncodesJson shown (Surface.json.renderMessage most message).toList ∧
      EncodesMarkdown shown (Surface.markdown.renderMessage most message).toList := by
  intro shown
  have hrender (s : Surface) : (s.renderMessage most message).toList =
      (anyPlaceholder.pieces shown).flatMap s.renderPiece :=
    String.toList_ofList
  refine ⟨?_, ?_, ?_, ?_⟩
  · rw [hrender, flatMap_renderPiece_eq (List.all_iff_forall_prop.mp (by decide))]
    exact encodesHtml shown
  · rw [hrender, flatMap_renderPiece_eq (List.all_iff_forall_prop.mp (by decide))]
    exact encodesScript shown
  · rw [hrender, flatMap_renderPiece_eq (List.all_iff_forall_prop.mp (by decide))]
    exact encodesJson shown
  · rw [hrender]
    exact encodesMarkdown shown

/-- A look-alike in front of a placeholder is escaped, and the placeholder is not. -/
example : Surface.markdown.renderMessage 100 "*a@b.io <x" =
    "\\****REDACTED_EMAIL*** &lt;x" := by
  decide +kernel

end TraceCheck.Rendering
