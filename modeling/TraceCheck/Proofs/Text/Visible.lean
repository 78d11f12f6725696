import TraceCheck.Proofs.Redaction.Masking
import TraceCheck.Proofs.Text.Ascii
import TraceCheck.Proofs.Text.Hex
import TraceCheck.Redaction.Cut

/-!
# Visible texts

A text is visible when no control character and no bidirectional control is in it.
Placeholders are visible, so redacting and cutting a visible text leaves it visible,
and the form in which messages quote foreign text is visible whatever the text holds.
-/

namespace TraceCheck.Text

open TraceCheck.Redaction

/-- No character acts on a display. -/
def Visible (cs : List Char) : Prop :=
  ∀ c ∈ cs, isUnsafe c = false

instance (cs : List Char) : Decidable (Visible cs) :=
  inferInstanceAs (Decidable (∀ c ∈ cs, isUnsafe c = false))

/-! ## Parts -/

@[simp] theorem visible_cons_iff {c : Char} {cs : List Char} :
    Visible (c :: cs) ↔ isUnsafe c = false ∧ Visible cs :=
  List.forall_mem_cons

@[simp] theorem visible_append_iff {xs ys : List Char} :
    Visible (xs ++ ys) ↔ Visible xs ∧ Visible ys :=
  List.forall_mem_append

theorem Visible.subset {xs ys : List Char} (h : Visible ys) (hsub : xs ⊆ ys) : Visible xs :=
  fun c hc => h c (hsub hc)

theorem visible_flatMap {α : Type} {xs : List α} {g : α → List Char}
    (h : ∀ x ∈ xs, Visible (g x)) : Visible (xs.flatMap g) :=
  List.forall_mem_flatMap.mpr h

/-! ## Letters and digits -/

theorem isUnsafe_of_isAlphanum {c : Char} (hc : c.isAlphanum = true) : isUnsafe c = false := by
  have hall := of_isAlphanum (p := fun c => !isUnsafe c) (by decide) hc
  exact (Bool.not_eq_true' _).mp hall

theorem isAlphanum_of_mem_toString {n : Nat} {c : Char} (hc : c ∈ (toString n).toList) :
    c.isAlphanum = true := by
  rw [Nat.toString_eq_repr, Nat.toList_repr] at hc
  have hdigit := Nat.isDigit_of_mem_toDigits (by decide) (by decide) hc
  rw [Char.isAlphanum, hdigit, Bool.or_true]

/-- Numerals are visible. -/
theorem visible_toString (n : Nat) : Visible (toString n).toList :=
  fun _ hc => isUnsafe_of_isAlphanum (isAlphanum_of_mem_toString hc)

theorem isAlphanum_of_isHexDigit {c : Char} (hc : isHexDigit c = true) : c.isAlphanum = true := by
  unfold isHexDigit hexValue? at hc
  rw [isAlphanum_iff]
  split at hc
  · next h => exact .inr h
  split at hc
  · next h => exact .inl (.inr ⟨h.1, Char.le_trans h.2 (by decide)⟩)
  split at hc
  · next h => exact .inl (.inl ⟨h.1, Char.le_trans h.2 (by decide)⟩)
  · cases hc

theorem visible_hex (letters : HexCase) (least n : Nat) : Visible (hex letters least n) :=
  fun _ hc => isUnsafe_of_isAlphanum (isAlphanum_of_isHexDigit (isHexDigit_of_mem_hex letters hc))

/-! ## Control characters made visible -/

theorem visible_plainChar (c : Char) : Visible (Escape.plainChar c) := by
  unfold Escape.plainChar
  split
  · decide
  · decide
  · decide
  · split
    · rw [visible_append_iff, visible_append_iff]
      exact ⟨⟨by decide, visible_hex .lower 4 _⟩, by decide⟩
    · next hsafe => exact List.forall_mem_singleton.mpr ((Bool.not_eq_true _).mp hsafe)

theorem plainChar_of_not_unsafe {c : Char} (hc : isUnsafe c = false) :
    Escape.plainChar c = [c] := by
  unfold Escape.plainChar
  split
  · cases hc
  · cases hc
  · cases hc
  · rw [if_neg (by rw [hc]; exact Bool.false_ne_true)]

/-- A visible text is shown as it is. -/
theorem Visible.flatMap_plainChar {cs : List Char} (h : Visible cs) :
    cs.flatMap Escape.plainChar = cs := by
  rw [List.flatMap_congr fun c hc => plainChar_of_not_unsafe (h c hc), List.flatMap_singleton']

/-! ## Redacted and cut texts -/

theorem visible_of_isPlaceholder {p : List Char} (hp : IsPlaceholder p) : Visible p := by
  have hall : Visible placeholderChars := by decide
  exact fun c hc => hall c (hp.mem_placeholderChars hc)

theorem Visible.of_masks {old new : List Char} (hold : Visible old)
    (h : Masks IsPlaceholder old new) : Visible new := by
  intro c hc
  rcases h.mem hc with hc | ⟨block, hblock, hc⟩
  · exact hold c hc
  · exact visible_of_isPlaceholder hblock c hc

theorem Visible.redactChars {cs : List Char} (h : Visible cs) : Visible (redactChars cs) :=
  foldl_rules_induction (fun _ _ hmasks hold => hold.of_masks hmasks) (List.Subset.refl _) h

theorem Visible.cutWith {cs : List Char} (h : Visible cs) {marker : String}
    (hmarker : Visible marker.toList) (most : Nat) :
    Visible (Redaction.cutWith marker most cs) := by
  unfold Redaction.cutWith
  split
  · exact visible_append_iff.mpr ⟨h.subset (List.take_subset _ _), hmarker⟩
  · exact h

/-- What a message quotes is visible. -/
theorem visible_displaySafe (s : String) (most : Nat) :
    Visible (displaySafe s most).toList := by
  rw [displaySafe, String.toList_ofList]
  exact Visible.cutWith (visible_flatMap fun c _ => visible_plainChar c) (by decide) most

end TraceCheck.Text
