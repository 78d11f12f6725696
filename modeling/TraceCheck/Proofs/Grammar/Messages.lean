import TraceCheck.Expr.Parser
import TraceCheck.Proofs.Text.Visible
import TraceCheck.Proofs.Token.Pieces

/-!
# Words of diagnostics

Every message and every hint about a rule is visible, whatever its text holds.  Errors
quote tokens and characters in the form made for quoting, remarks quote names, which
have word characters and dots only, and all other words are fixed.
-/

namespace TraceCheck

open TraceCheck.Text

/-- The message and the hint of a diagnostic are visible. -/
def Diagnostic.IsVisible (d : Diagnostic) : Prop :=
  Visible d.message.toList ∧ ∀ s ∈ d.suggestion, Visible s.toList

theorem visible_toList_append {a b : String} :
    Visible (a ++ b).toList ↔ Visible a.toList ∧ Visible b.toList := by
  rw [String.toList_append, visible_append_iff]

/-- The characters of a fixed text can be checked one by one. -/
theorem visible_ofList {cs : List Char} (h : Visible cs) : Visible (String.ofList cs).toList := by
  rwa [String.toList_ofList]

/-! ## Errors and remarks -/

theorem Token.visible_describe (t : Token) : Visible t.describe.toList := by
  unfold Token.describe
  split
  · exact visible_ofList (by decide)
  · simp only [visible_toList_append]
    exact ⟨⟨visible_ofList (by decide), visible_displaySafe _ _⟩, visible_ofList (by decide)⟩
  · simp only [visible_toList_append]
    exact ⟨⟨visible_ofList (by decide), visible_displaySafe _ _⟩, visible_ofList (by decide)⟩

theorem LexicalError.visible_suggestion (e : LexicalError) : Visible e.suggestion.toList := by
  cases e with
  | unexpectedCharacter shown word isAssignment =>
      cases isAssignment <;> exact visible_ofList (by decide)
  | _ => exact visible_ofList (by decide)

/-- What an error in the spelling quotes: a character and the word around it. -/
def LexicalError.quoted : LexicalError → List String
  | .unexpectedCharacter shown word _ => [shown, word]
  | _ => []

/-- An error in the spelling is visible when what it quotes is. -/
theorem LexicalError.visible_message {e : LexicalError}
    (h : ∀ s ∈ e.quoted, Visible s.toList) : Visible e.message.toList := by
  unfold LexicalError.message
  cases e with
  | unterminatedString => exact visible_ofList (by decide)
  | identifierTooLong limit =>
      simp only [visible_toList_append]
      exact ⟨⟨visible_ofList (by decide), visible_toString limit⟩, visible_ofList (by decide)⟩
  | stringTooLong limit =>
      simp only [visible_toList_append]
      exact ⟨⟨visible_ofList (by decide), visible_toString limit⟩, visible_ofList (by decide)⟩
  | unexpectedCharacter shown word isAssignment =>
      obtain ⟨hshown, hword⟩ := List.forall_mem_cons.mp h
      have hword := List.forall_mem_singleton.mp hword
      simp only [visible_toList_append]
      exact ⟨⟨⟨⟨visible_ofList (by decide), hshown⟩, visible_ofList (by decide)⟩, hword⟩,
        visible_ofList (by decide)⟩
  | inputTooLarge bytes limit =>
      simp only [visible_toList_append]
      exact ⟨⟨⟨⟨visible_ofList (by decide), visible_toString bytes⟩, visible_ofList (by decide)⟩,
        visible_toString limit⟩, visible_ofList (by decide)⟩
  | timeout limitMs =>
      simp only [visible_toList_append]
      exact ⟨⟨visible_ofList (by decide), visible_toString limitMs⟩, visible_ofList (by decide)⟩

/-- An error that quotes nothing is visible. -/
theorem LexicalError.visible_fixed_message {e : LexicalError} (he : e.quoted = []) :
    Visible e.message.toList :=
  LexicalError.visible_message (he ▸ List.forall_mem_nil _)

theorem LexicalError.isVisible_diagnostic {e : LexicalError}
    (hmessage : Visible e.message.toList) (line column length : Nat) :
    (e.diagnostic line column length).IsVisible := by
  have hhint : ∀ s ∈ some e.suggestion, Visible s.toList := by
    rintro s ⟨⟩
    exact e.visible_suggestion
  unfold LexicalError.diagnostic
  split
  · exact ⟨hmessage, hhint⟩
  · exact ⟨hmessage, hhint⟩

theorem Regex.SyntaxError.visible_message (e : Regex.SyntaxError) :
    Visible e.message.toList := by
  unfold Regex.SyntaxError.message
  cases e with
  | nestLimitExceeded limit =>
      simp only [visible_toList_append]
      exact ⟨⟨visible_ofList (by decide), visible_toString limit⟩, visible_ofList (by decide)⟩
  | tooLarge limit =>
      simp only [visible_toList_append]
      exact ⟨⟨visible_ofList (by decide), visible_toString limit⟩, visible_ofList (by decide)⟩
  | boundaryUnrecognized =>
      rw [visible_toList_append]
      exact ⟨visible_ofList (by decide), visible_ofList (by decide)⟩
  | boundaryUnexpectedEnd =>
      rw [visible_toList_append]
      exact ⟨visible_ofList (by decide), visible_ofList (by decide)⟩
  | _ => exact visible_ofList (by decide)

theorem PatternError.visible_message (e : PatternError) : Visible e.message.toList := by
  unfold PatternError.message
  cases e with
  | empty => exact visible_ofList (by decide)
  | nestedQuantifier => exact visible_ofList (by decide)
  | tooLong bytes limit =>
      simp only [visible_toList_append]
      exact ⟨⟨⟨⟨visible_ofList (by decide), visible_toString bytes⟩, visible_ofList (by decide)⟩,
        visible_toString limit⟩, visible_ofList (by decide)⟩
  | tooDeep limit =>
      simp only [visible_toList_append]
      exact ⟨⟨visible_ofList (by decide), visible_toString limit⟩, visible_ofList (by decide)⟩
  | invalid e =>
      rw [visible_toList_append]
      exact ⟨visible_ofList (by decide), e.visible_message⟩

theorem Comparator.visible_name (op : Comparator) : Visible op.name.toList := by
  cases op <;> exact visible_ofList (by decide)

theorem Expectation.visible_text (what : Expectation) : Visible what.text.toList := by
  cases what <;> exact visible_ofList (by decide)

/-- What an error quotes. -/
def ParseError.quoted? : ParseError → Option String
  | .expected _ found => some found
  | .trailing found => some found
  | .countOperand found => some found
  | _ => none

/-- An error is visible when what it quotes is. -/
theorem ParseError.visible_message {e : ParseError} (h : ∀ s ∈ e.quoted?, Visible s.toList) :
    Visible e.message.toList := by
  unfold ParseError.message
  cases e with
  | empty => exact visible_ofList (by decide)
  | nestedList => exact visible_ofList (by decide)
  | expected what found =>
      simp only [visible_toList_append]
      exact ⟨⟨⟨visible_ofList (by decide), what.visible_text⟩, visible_ofList (by decide)⟩,
        h found rfl⟩
  | trailing found =>
      simp only [visible_toList_append]
      exact ⟨⟨visible_ofList (by decide), h found rfl⟩, visible_ofList (by decide)⟩
  | tooDeep limit =>
      simp only [visible_toList_append]
      exact ⟨⟨visible_ofList (by decide), visible_toString limit⟩, visible_ofList (by decide)⟩
  | timeout limitMs =>
      simp only [visible_toList_append]
      exact ⟨⟨visible_ofList (by decide), visible_toString limitMs⟩, visible_ofList (by decide)⟩
  | pattern e =>
      rw [visible_toList_append]
      exact ⟨visible_ofList (by decide), e.visible_message⟩
  | countOperand found =>
      rw [visible_toList_append]
      exact ⟨visible_ofList (by decide), h found rfl⟩
  | countOperator op =>
      simp only [visible_toList_append]
      exact ⟨⟨visible_ofList (by decide), op.visible_name⟩, visible_ofList (by decide)⟩
  | listNotAllowed op =>
      simp only [visible_toList_append]
      exact ⟨⟨visible_ofList (by decide), op.visible_name⟩, visible_ofList (by decide)⟩
  | stringRequired op =>
      simp only [visible_toList_append]
      exact ⟨⟨visible_ofList (by decide), op.visible_name⟩, visible_ofList (by decide)⟩

theorem ParseError.visible_suggestion (e : ParseError) :
    ∀ s ∈ e.suggestion, Visible s.toList := by
  intro s hs
  cases e with
  | expected what found => cases what <;> cases hs <;> exact visible_ofList (by decide)
  | _ => cases hs <;> exact visible_ofList (by decide)

/-- What a remark quotes. -/
def Lint.quoted? : Lint → Option String
  | .unqualifiedName name => some name
  | _ => none

/-- A remark is visible when the name that it quotes is. -/
theorem Lint.visible_message {l : Lint} (h : ∀ s ∈ l.quoted?, Visible s.toList) :
    Visible l.message.toList := by
  unfold Lint.message
  cases l with
  | unqualifiedName name =>
      simp only [visible_toList_append]
      exact ⟨⟨visible_ofList (by decide), h name rfl⟩, visible_ofList (by decide)⟩
  | highCount =>
      simp only [visible_toList_append]
      exact ⟨⟨visible_ofList (by decide), visible_toString _⟩, visible_ofList (by decide)⟩
  | alternatives => exact visible_ofList (by decide)
  | exactCount => exact visible_ofList (by decide)
  | exactAmount => exact visible_ofList (by decide)

theorem Lint.visible_suggestion (l : Lint) : ∀ s ∈ l.suggestion, Visible s.toList := by
  intro s hs
  cases l <;> cases hs <;> exact visible_ofList (by decide)

/-! ## Characters -/

theorem isVisible_of_mem_lexicalErrors
    {l : Limits} {xs : List Located} {last : Option (Nat × String)} {found : List Diagnostic}
    (hfound : ∀ d ∈ found, d.IsVisible) (hlast : ∀ p ∈ last, Visible p.2.toList) :
    ∀ d ∈ lexicalErrors l xs last found, d.IsVisible := by
  have hmore (x : Located) {e : LexicalError} (he : Visible e.message.toList)
      {found : List Diagnostic} (hfound : ∀ d ∈ found, d.IsVisible) :
      ∀ d ∈ x.diagnose e :: found, d.IsVisible :=
    List.forall_mem_cons.mpr ⟨LexicalError.isVisible_diagnostic he _ _ _, hfound⟩
  fun_induction lexicalErrors l xs last found with
  | case1 last found => exact fun d hd => hfound d (List.mem_reverse.mp hd)
  | case2 x rest last found hword hlong ih =>
      exact ih (hmore x (LexicalError.visible_fixed_message rfl) hfound) hlast
  | case3 x rest last found hword hshort ih => exact ih hfound hlast
  | case4 x rest last found content hstring hlong ih =>
      exact ih (hmore x (LexicalError.visible_fixed_message rfl) hfound) hlast
  | case5 x rest last found content hstring hshort ih => exact ih hfound hlast
  | case6 x rest last found hopen ih =>
      exact ih (hmore x (LexicalError.visible_fixed_message rfl) hfound) hlast
  | case7 x rest last found c hstray word shown ih =>
      -- The quoted word is taken over from the last error or made anew.
      have hword : Visible word.2.toList := by
        unfold word Located.wordGiven
        split
        · next kept =>
            split
            · exact hlast _ rfl
            · exact visible_displaySafe _ _
        · exact visible_displaySafe _ _
      have hquoted : ∀ s ∈ [shown, word.2], Visible s.toList :=
        List.forall_mem_cons.mpr ⟨visible_displaySafe _ _, List.forall_mem_singleton.mpr hword⟩
      have hmessage :
          Visible (LexicalError.unexpectedCharacter shown word.2 (c = '=')).message.toList :=
        LexicalError.visible_message hquoted
      refine ih (hmore x hmessage hfound) fun p hp => ?_
      rw [← Option.mem_some.mp hp]
      exact hword
  | case8 x rest last found _ _ _ _ ih => exact ih hfound hlast

/-- The errors in the spelling of a text are visible. -/
theorem isVisible_of_mem_errors (l : Limits) (source : String) :
    ∀ d ∈ (tokenize l source).errors, d.IsVisible := by
  rw [tokenize_still]
  split
  · exact List.forall_mem_singleton.mpr
      (LexicalError.isVisible_diagnostic (LexicalError.visible_fixed_message rfl) _ _ _)
  split
  · exact List.forall_mem_singleton.mpr
      (LexicalError.isVisible_diagnostic (LexicalError.visible_fixed_message rfl) _ _ _)
  · exact isVisible_of_mem_lexicalErrors nofun nofun

/-- A token that is a word is visible. -/
def Token.HasVisibleWord (t : Token) : Prop :=
  t.kind.isWord = true → Visible t.text.toList

theorem isUnsafe_of_isWordChar {c : Char} (hc : Lexeme.isWordChar c = true) :
    isUnsafe c = false := by
  rcases (Bool.or_eq_true _ _).mp hc with halnum | hunderscore
  · exact isUnsafe_of_isAlphanum halnum
  · rw [beq_iff_eq.mp hunderscore]
    decide

theorem Located.hasVisibleWord_of_token? {l : Limits} {x : Located} {t : Token}
    (hx : x.piece.WellFormed) (ht : x.token? l = some t) : t.HasVisibleWord := by
  intro hkind
  obtain ⟨lexeme, start, chars⟩ := x
  unfold Located.token? at ht
  cases lexeme with
  | word =>
      have hchars : Visible chars := fun c hc => isUnsafe_of_isWordChar (hx.2 c hc)
      dsimp only at ht
      split at ht
      · injection ht with ht
        rw [← ht, Located.toToken, String.toList_ofList]
        exact hchars.subset (List.take_subset _ _)
      · injection ht with ht
        rw [← ht, Located.toToken, String.toList_ofList]
        exact hchars
  | number =>
      injection ht with ht
      rw [← ht] at hkind
      cases hkind
  | string content =>
      injection ht with ht
      rw [← ht] at hkind
      cases hkind
  | symbol kind =>
      injection ht with ht
      rw [← ht] at hkind
      have hother : kind.isWord = false := hx.2
      change kind.isWord = true at hkind
      rw [hother] at hkind
      cases hkind
  | blank => cases ht
  | comment => cases ht
  | openString => cases ht
  | stray c => cases ht

theorem hasVisibleWord_of_mem_tokens (l : Limits) (source : String) :
    ∀ t ∈ (tokenize l source).tokens, t.HasVisibleWord := by
  have heof (line column : Nat) : (Token.eof line column).HasVisibleWord := nofun
  rcases tokenize_cases l source with ⟨e, hrefused⟩ | ⟨htokens, -⟩
  · rw [hrefused]
    exact List.forall_mem_singleton.mpr (heof 1 1)
  · rw [htokens]
    refine List.forall_mem_append.mpr ⟨fun t ht => ?_, List.forall_mem_singleton.mpr (heof _ _)⟩
    obtain ⟨x, hx, htoken⟩ := List.mem_filterMap.mp ht
    have hpiece : x.piece ∈ pieces source.toList := by
      rw [← lexemes_map_piece]
      exact List.mem_map_of_mem hx
    exact Located.hasVisibleWord_of_token? (wellFormed_of_mem_piecesFrom hpiece) htoken

end TraceCheck
