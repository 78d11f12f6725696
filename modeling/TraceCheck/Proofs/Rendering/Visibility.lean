import TraceCheck.Proofs.Rendering.Safety

/-!
# What is visible on a surface

Four surfaces show no control character and no bidirectional control of a message.  The
inside of a JSON string escapes the control characters below the space and no others, so
there a message is visible exactly when it has no others once its secrets are replaced and
it is cut.
-/

namespace TraceCheck.Rendering

open TraceCheck.Redaction TraceCheck.Text

/-! ## Characters -/

theorem visible_scriptCode (c : Char) : Visible (Escape.scriptCode c) :=
  visible_append_iff.mpr ⟨by decide, visible_hex .upper 4 _⟩

theorem visible_scriptChar (c : Char) : Visible (Escape.scriptChar c) := by
  unfold Escape.scriptChar
  split
  · decide
  · decide
  · decide
  · decide
  · decide
  · decide
  · decide
  · decide
  · exact visible_scriptCode _
  · exact visible_scriptCode _
  · exact visible_scriptCode _
  · exact visible_scriptCode _
  · exact visible_scriptCode _
  · split
    · exact visible_scriptCode c
    · next hsafe => exact List.forall_mem_singleton.mpr ((Bool.not_eq_true _).mp hsafe)

/-- Of what acts on a display, JSON escapes the characters below the space only. -/
theorem visible_jsonChar_iff (c : Char) :
    Visible (Escape.jsonChar c) ↔ (isUnsafe c = true → c.toNat < 0x20) := by
  unfold Escape.jsonChar
  split
  · decide
  · decide
  · decide
  · unfold Json.escapeChar
    split
    · decide
    · decide
    · decide
    · decide
    · decide
    · decide
    · decide
    · split
      · next hlow =>
          refine iff_of_true ?_ fun _ => hlow
          refine visible_append_iff.mpr ⟨by decide, fun d hd => ?_⟩
          exact isUnsafe_of_isAlphanum
            (isAlphanum_of_isHexDigit (isHexDigit_of_mem_hexFixed .lower hd))
      · next hhigh =>
          have hself : Visible [c] ↔ ¬ isUnsafe c = true := by
            rw [Bool.not_eq_true]
            exact List.forall_mem_singleton
          exact hself.trans ⟨fun h hc => absurd hc h, fun h hc => hhigh (h hc)⟩

/-! ## Messages -/

/-- A surface that leaves the characters of placeholders alone shows what is visible of
each character. -/
theorem visible_renderMessage_iff_forall {s : Surface}
    (hs : ∀ c ∈ placeholderChars, s.escapeChar c = [c]) (most : Nat) (message : String) :
    Visible (s.renderMessage most message).toList ↔
      ∀ c ∈ (truncate (redact message) most).toList, Visible (s.escapeChar c) := by
  have hrender : (s.renderMessage most message).toList =
      (truncate (redact message) most).toList.flatMap s.escapeChar :=
    String.toList_ofList.trans (flatMap_renderPiece_eq hs _)
  rw [hrender]
  exact List.forall_mem_flatMap

/-- No surface but JSON shows a character that acts on a display, whatever the message and
wherever it is cut.  JSON shows none exactly when those of the message, without its secrets
and cut, are below the space. -/
theorem visible_renderMessage_iff (s : Surface) (most : Nat) (message : String) :
    Visible (s.renderMessage most message).toList ↔
      (s = .json → ∀ c ∈ (truncate (redact message) most).toList,
        isUnsafe c = true → c.toNat < 0x20) := by
  cases s with
  | html => exact iff_of_true (renderMessage_html most message).1 nofun
  | markdown => exact iff_of_true (renderMessage_markdown most message).1 nofun
  | javaScript =>
      refine iff_of_true ?_ nofun
      rw [visible_renderMessage_iff_forall (List.all_iff_forall_prop.mp (by decide))]
      exact fun c _ => visible_scriptChar c
  | plain =>
      refine iff_of_true ?_ nofun
      rw [visible_renderMessage_iff_forall (List.all_iff_forall_prop.mp (by decide))]
      exact fun c _ => visible_plainChar c
  | json =>
      rw [visible_renderMessage_iff_forall (List.all_iff_forall_prop.mp (by decide))]
      exact (forall₂_congr fun c _ => visible_jsonChar_iff c).trans
        ⟨fun h _ => h, fun h => h rfl⟩

/-- The character `DEL` and an override of the direction of a text reach the inside of a JSON
string. -/
theorem renderMessage_json_override :
    ¬ Visible (Surface.json.renderMessage 10000 "a\x7fb\u202e").toList ∧
      Surface.json.renderMessage 10000 "a\x7fb\u202e" = "a\x7fb\u202e" := by
  decide +kernel

end TraceCheck.Rendering
