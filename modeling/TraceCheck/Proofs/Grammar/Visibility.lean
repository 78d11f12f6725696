import TraceCheck.Proofs.Grammar.Subjects

/-!
# Whatever is said about a rule is visible

The words among the tokens of a rule are visible, so the names that remarks quote are.
Errors quote tokens in a form that is visible whatever they hold.
-/

namespace TraceCheck

open TraceCheck.Text

/-! ## Findings -/

theorem Reading.DottedName.visible_text {n : DottedName} (hn : n.IsOf Token.HasVisibleWord) :
    Visible n.text.toList := by
  unfold DottedName.text
  rw [visible_toList_append, String.toList_join]
  refine ⟨hn.first.1 hn.first.2, visible_flatMap fun s hs => ?_⟩
  obtain ⟨t, ht, rfl⟩ := List.mem_map.mp hs
  obtain ⟨hvisible, hword⟩ := hn.segments t ht
  exact visible_toList_append.mpr ⟨visible_ofList (by decide), hvisible hword⟩

/-- A finding is visible when the words that it is about are. -/
theorem Finding.isVisible_diagnostic {f : Finding} (hf : f.IsAbout Token.HasVisibleWord) :
    f.diagnostic.IsVisible := by
  have hquoted : ∀ s ∈ f.quoted?, Visible s.toList := by
    intro s hs
    rcases hf.quoted s hs with ⟨t, rfl⟩ | ⟨n, hn, rfl⟩
    · exact t.visible_describe
    · exact n.visible_text hn
  cases f with
  | error e t => exact ⟨ParseError.visible_message hquoted, e.visible_suggestion⟩
  | lint l t length => exact ⟨Lint.visible_message hquoted, l.visible_suggestion⟩

/-! ## Verdicts -/

/-- All diagnostics of a verdict are visible. -/
def Verdict.IsVisible (v : Verdict) : Prop :=
  ∀ d ∈ v.diagnostics, d.IsVisible

theorem hasVisibleWord_stopToken {tokens : List Token} (h : ∀ t ∈ tokens, t.HasVisibleWord) :
    (stopToken tokens).HasVisibleWord := by
  unfold stopToken
  split
  · next t hfound => exact h t (List.mem_of_find?_eq_some hfound)
  · exact nofun
  · exact nofun

/-- Every diagnostic about a rule is visible, whatever its text holds. -/
theorem isVisible_check (l : Limits) (source : String) : (check l source).IsVisible := by
  intro d hd
  have htokens := hasVisibleWord_of_mem_tokens l source
  rcases exists_of_mem_check htokens (hasVisibleWord_stopToken htokens) hd with
    hd | ⟨e, he, rfl⟩ | ⟨f, hf, rfl⟩
  · exact isVisible_of_mem_errors l source d hd
  · have hquoted : ∀ s ∈ e.quoted?, Visible s.toList := by
      rw [he]
      exact nofun
    exact ⟨ParseError.visible_message hquoted, e.visible_suggestion⟩
  · exact Finding.isVisible_diagnostic hf

/-- What is said about a rule has no control character and no bidirectional control, neither
in the message of an error or a remark nor in its hint, whatever the rule and the limits. -/
theorem not_control_of_words_check (l : Limits) (source : String) :
    ∀ d ∈ (check l source).errors ++ (check l source).warnings,
      ∀ words ∈ d.message :: d.suggestion.toList,
        ∀ c ∈ words.toList, isControl c = false ∧ isBidiControl c = false := by
  intro d hd words hwords c hc
  obtain ⟨hmessage, hhint⟩ := isVisible_check l source d hd
  have hvisible : Visible words.toList := by
    rcases List.mem_cons.mp hwords with rfl | hwords
    · exact hmessage
    · exact hhint words (Option.mem_toList.mp hwords)
  exact Bool.or_eq_false_iff.mp (hvisible c hc)

theorem not_control_of_quoted_override :
    ∃ d ∈ (check {} "\u202e").errors,
      d.message = "Unexpected character '\\u\x7b202e\x7d' in '\\u\x7b202e\x7d'" ∧
        ∀ c ∈ d.message.toList, isControl c = false ∧ isBidiControl c = false := by
  have hquoted : ∃ d ∈ (check {} "\u202e").errors,
      d.message = "Unexpected character '\\u\x7b202e\x7d' in '\\u\x7b202e\x7d'" := by
    decide +kernel
  obtain ⟨d, hd, hmessage⟩ := hquoted
  refine ⟨d, hd, hmessage, ?_⟩
  exact not_control_of_words_check {} "\u202e" d (List.mem_append_left _ hd) d.message
    List.mem_cons_self

end TraceCheck
