import TraceCheck.Proofs.Redaction.Keys
import TraceCheck.Proofs.Rendering.Messages
import TraceCheck.Proofs.Text.Visible

/-!
# Messages without secrets and control characters

What a surface shows of a message has no control character and no service key.  Escaping
cannot put a key together: what stands for a character is foreign to keys at both ends,
or puts a backslash in front of every underscore.  Plain text shows a carriage return as
a letter, so there a message has to be visible.
-/

namespace TraceCheck.Rendering

open TraceCheck.Redaction TraceCheck.Text

/-! ## Pages -/

/-- What stands for a character that is escaped in HTML. -/
def IsHtmlEscape (block : List Char) : Prop :=
  (∃ entity ∈ htmlEntities, block = entity.1.toList) ∨ ∃ c, block = referenceTo c

theorem IsHtmlEscape.apart {key block : List Char} (hkey : IsApiKey key)
    (hblock : IsHtmlEscape block) : Apart key block := by
  have hsplit : ∃ inner, block = '&' :: (inner ++ [';']) ∧ '_' ∉ inner := by
    rcases hblock with ⟨entity, hentity, rfl⟩ | ⟨c, rfl⟩
    · have hall : ∀ e ∈ htmlEntities,
          e.1.toList = '&' :: (e.1.toList.tail.dropLast ++ [';']) ∧
            '_' ∉ e.1.toList.tail.dropLast := by
        decide
      exact ⟨_, hall entity hentity⟩
    · refine ⟨['#', 'x'] ++ hex .upper 1 c.toNat, rfl, fun hmem => ?_⟩
      rcases List.mem_append.mp hmem with hstart | hdigit
      · exact absurd hstart (by decide)
      · have hother : '_' ∉ ['_'] :=
          not_mem_of_isHexDigit (by decide) (isHexDigit_of_mem_hex .upper hdigit)
        exact hother List.mem_cons_self
  obtain ⟨inner, rfl, hinner⟩ := hsplit
  refine ⟨'&', inner, ';', rfl, hkey.not_mem (by decide), hkey.not_mem (by decide),
    fun hinside => ?_⟩
  exact keyless_of_not_mem hinner key hkey hinside

theorem masks_htmlChars (text : List Char) :
    Masks IsHtmlEscape text (text.flatMap Escape.htmlChar) := by
  have hmasks : Masks IsHtmlEscape (text.flatMap fun c => [c]) (text.flatMap Escape.htmlChar) := by
    refine Masks.flatMap fun c _ => ?_
    rcases htmlChar_cases c with ⟨heq, -⟩ | ⟨entity, hentity, -, heq⟩ | heq
    · rw [heq]
      exact Masks.refl [c]
    · rw [heq]
      exact Masks.whole [c] (.inl ⟨entity, hentity, rfl⟩)
    · rw [heq]
      exact Masks.whole [c] (.inr ⟨c, rfl⟩)
  rwa [List.flatMap_singleton'] at hmasks

theorem visible_htmlChar (c : Char) : Visible (Escape.htmlChar c) := by
  unfold Escape.htmlChar
  split
  · decide
  · decide
  · decide
  · decide
  · decide
  · decide
  · split
    · rw [visible_append_iff, visible_append_iff]
      exact ⟨⟨by decide, visible_hex .upper 1 _⟩, by decide⟩
    · next hsafe => exact List.forall_mem_singleton.mpr ((Bool.not_eq_true _).mp hsafe)

/-! ## Markdown -/

/-- A part of a markdown text that neither has the middle of a key nor begins with its
second half. -/
def KeepsPairsApart (block : List Char) : Prop :=
  ¬ ['k', '_'] <:+: block ∧ block.head? ≠ some '_'

theorem KeepsPairsApart.append {u v : List Char} (hu : KeepsPairsApart u)
    (hv : KeepsPairsApart v) : KeepsPairsApart (u ++ v) := by
  constructor
  · intro hinside
    rcases List.infix_append_iff.mp hinside with hleft | hright | ⟨l₁, l₂, heq, hsuffix, hstarts⟩
    · exact hu.1 hleft
    · exact hv.1 hright
    · match l₁, heq with
      | [], heq => exact hv.1 (heq ▸ hstarts.isInfix)
      | [_], heq =>
          injection heq with _ hsecond
          change ['_'] = l₂ at hsecond
          rw [← hsecond] at hstarts
          obtain ⟨t, rfl⟩ := hstarts
          exact hv.2 rfl
      | [_, _], heq =>
          injection heq with hk heq
          injection heq with hunderscore _
          rw [← hk, ← hunderscore] at hsuffix
          exact hu.1 hsuffix.isInfix
  · cases u with
    | nil => exact hv.2
    | cons c u => exact hu.2

theorem KeepsPairsApart.flatMap {α : Type} {xs : List α} {g : α → List Char}
    (h : ∀ x ∈ xs, KeepsPairsApart (g x)) : KeepsPairsApart (xs.flatMap g) := by
  induction xs with
  | nil =>
      rw [List.flatMap_nil]
      exact ⟨by decide, by decide⟩
  | cons x xs ih =>
      rw [List.flatMap_cons]
      exact (h x List.mem_cons_self).append (ih fun y hy => h y (List.mem_cons_of_mem x hy))

theorem keepsPairsApart_markdownVisible (c : Char) :
    KeepsPairsApart (Escape.markdownVisible c) := by
  rcases markdownVisible_cases c with ⟨heq, hmark, -⟩ | ⟨heq, -⟩ | ⟨entity, hmem, -, heq⟩
  · rw [heq]
    refine ⟨fun hinside => ?_, fun hhead => ?_⟩
    · exact absurd hinside.length_le (Nat.not_succ_le_self 1)
    · injection hhead with hc
      exact hmark (hc ▸ by decide)
  · rw [heq]
    have hhead : (some '\\' : Option Char) ≠ some '_' := by decide
    refine ⟨fun hinside => ?_, hhead⟩
    have hpair := hinside.eq_of_length rfl
    injection hpair with hk
    exact absurd hk (by decide)
  · rw [heq]
    have hall : ∀ e ∈ markdownEntities, '_' ∉ e.1.toList := by decide
    refine ⟨fun hinside => hall entity hmem (hinside.subset (by decide)), fun hhead => ?_⟩
    exact hall entity hmem (List.mem_of_head? hhead)

theorem keepsPairsApart_of_isPlaceholder {p : List Char} (hp : IsPlaceholder p) :
    KeepsPairsApart p := by
  refine ⟨fun hinside => ?_, ?_⟩
  · have hmem := hp.mem_placeholderChars (hinside.subset (List.mem_cons_self (a := 'k')))
    exact absurd hmem (by decide)
  · obtain ⟨kind, -, -, rfl⟩ := hp
    have hhead : "***REDACTED_".toList.head? = some '*' := by decide
    have hother : (some '*' : Option Char) ≠ some '_' := by decide
    rw [List.append_assoc, List.head?_append, hhead]
    exact hother

theorem visible_markdownVisible {c : Char} (hc : isUnsafe c = false) :
    Visible (Escape.markdownVisible c) := by
  unfold Escape.markdownVisible
  split
  · decide
  · decide
  · decide
  · split
    · exact visible_cons_iff.mpr ⟨by decide, List.forall_mem_singleton.mpr hc⟩
    · exact List.forall_mem_singleton.mpr hc

/-! ## Messages -/

variable (most : Nat) (message : String)

/-- A message as it is shown has no key. -/
theorem keyless_truncate_redact : Keyless (truncate (redact message) most).toList := by
  rw [truncate, String.toList_ofList, redact, String.toList_ofList]
  exact (keyless_redactChars _).cutWith most

theorem renderMessage_html :
    Visible (Surface.html.renderMessage most message).toList ∧
      Keyless (Surface.html.renderMessage most message).toList := by
  have hrender : (Surface.html.renderMessage most message).toList =
      (truncate (redact message) most).toList.flatMap Escape.htmlChar :=
    String.toList_ofList.trans
      (flatMap_renderPiece_eq (List.all_iff_forall_prop.mp (by decide)) _)
  rw [hrender]
  refine ⟨visible_flatMap fun c _ => visible_htmlChar c, fun key hkey hinside => ?_⟩
  refine keyless_truncate_redact most message key hkey ?_
  exact (masks_htmlChars _).isInfix (fun _ hblock => hblock.apart hkey) hinside

theorem renderMessage_markdown :
    Visible (Surface.markdown.renderMessage most message).toList ∧
      Keyless (Surface.markdown.renderMessage most message).toList := by
  rw [Surface.renderMessage, String.toList_ofList]
  constructor
  · refine visible_flatMap fun piece hpiece => ?_
    cases piece with
    | plain c =>
        exact visible_flatMap fun d hd => visible_markdownVisible (visible_plainChar c d hd)
    | found p => exact visible_of_isPlaceholder (isPlaceholder_of_found hpiece)
  · refine keyless_of_not_infix (KeepsPairsApart.flatMap fun piece hpiece => ?_).1
    cases piece with
    | plain c => exact KeepsPairsApart.flatMap fun d _ => keepsPairsApart_markdownVisible d
    | found p => exact keepsPairsApart_of_isPlaceholder (isPlaceholder_of_found hpiece)

/-- Plain text shows a visible message as it is. -/
theorem renderMessage_plain {message : String} (hmessage : Visible message.toList) :
    Visible (Surface.plain.renderMessage most message).toList ∧
      Keyless (Surface.plain.renderMessage most message).toList := by
  have hshown : Visible (truncate (redact message) most).toList := by
    rw [truncate, String.toList_ofList, redact, String.toList_ofList]
    exact hmessage.redactChars.cutWith (by decide) most
  have hrender : (Surface.plain.renderMessage most message).toList =
      (truncate (redact message) most).toList :=
    String.toList_ofList.trans
      ((flatMap_renderPiece_eq (List.all_iff_forall_prop.mp (by decide)) _).trans
        hshown.flatMap_plainChar)
  rw [hrender]
  exact ⟨hshown, keyless_truncate_redact most message⟩

end TraceCheck.Rendering
