import TraceCheck.Text.Blank

/-!
# Checking characters one by one

What holds of every character of a list, or of every ASCII letter and digit, can be
checked one by one.
-/

namespace TraceCheck.Text

/-- The characters of a list are checked along the list.  An instance for quantifiers over
all characters would go through every code point. -/
instance (priority := high) decidableForallMem {p : Char → Prop} [DecidablePred p]
    {l : List Char} : Decidable (∀ c ∈ l, p c) :=
  List.decidableBAll p l

instance (priority := high) decidableExistsMem {p : Char → Prop} [DecidablePred p]
    {l : List Char} : Decidable (∃ c ∈ l, p c) :=
  List.decidableBEx p l

/-- The ranges of ASCII letters and digits. -/
theorem isAlphanum_iff {c : Char} :
    c.isAlphanum = true ↔
      ('A' ≤ c ∧ c ≤ 'Z' ∨ 'a' ≤ c ∧ c ≤ 'z') ∨ '0' ≤ c ∧ c ≤ '9' := by
  have hranges : c.isAlphanum = (decide ('A' ≤ c ∧ c ≤ 'Z') ||
      (decide ('a' ≤ c) && decide (c ≤ 'z')) || (decide ('0' ≤ c) && decide (c ≤ '9'))) :=
    rfl
  rw [hranges]
  simp only [Bool.or_eq_true, Bool.and_eq_true, decide_eq_true_eq]

theorem toNat_lt_of_isAlphanum {c : Char} (hc : c.isAlphanum = true) : c.toNat < 128 := by
  have hbelow {d : Char} (hd : d.toNat < 128) (hle : c ≤ d) : c.toNat < 128 :=
    Nat.lt_of_le_of_lt (UInt32.le_iff_toNat_le.mp hle) hd
  rcases isAlphanum_iff.mp hc with (⟨-, hhigh⟩ | ⟨-, hhigh⟩) | ⟨-, hhigh⟩
  · exact hbelow (by decide) hhigh
  · exact hbelow (by decide) hhigh
  · exact hbelow (by decide) hhigh

/-- A property of all ASCII letters and digits. -/
theorem of_isAlphanum {p : Char → Bool}
    (h : ∀ n < 128, (Char.ofNat n).isAlphanum = true → p (Char.ofNat n) = true)
    {c : Char} (hc : c.isAlphanum = true) : p c = true := by
  have hcode := h c.toNat (toNat_lt_of_isAlphanum hc)
  rw [Char.ofNat_toNat] at hcode
  exact hcode hc

end TraceCheck.Text
