import TraceCheck.Decimal.Reader

/-!
# Numerals

The spellings of numbers in rules: digits, and a point between digits.  Every
numeral is read as a double.  It is read as a whole number exactly when it has
no point and its value is below the bound.
-/

namespace TraceCheck.Decimal

/-- Digits, or digits around a point. -/
inductive Numeral : List Char → Prop
  | whole (ds : List Char) (hne : ds ≠ []) (hds : ∀ c ∈ ds, isDigit c = true) :
      Numeral ds
  | fraction (ds fs : List Char) (hds : ∀ c ∈ ds, isDigit c = true)
      (hfs : ∀ c ∈ fs, isDigit c = true) (hdne : ds ≠ []) (hfne : fs ≠ []) :
      Numeral (ds ++ '.' :: fs)

theorem takeWhile_append_of_stop
    {α : Type} {p : α → Bool} {xs : List α} (ys : List α)
    (hxs : ∀ x ∈ xs, p x = true) (hys : ∀ y ∈ ys.head?, p y = false) :
    (xs ++ ys).takeWhile p = xs ∧ (xs ++ ys).dropWhile p = ys := by
  have hstop : ys.takeWhile p = [] ∧ ys.dropWhile p = ys := by
    cases ys with
    | nil => exact ⟨rfl, rfl⟩
    | cons y ys =>
        have hy : p y = false := hys y rfl
        simp [hy]
  rw [List.takeWhile_append_of_pos hxs, List.dropWhile_append_of_pos hxs,
    hstop.1, hstop.2, List.append_nil]
  exact ⟨rfl, rfl⟩

theorem Numeral.exists_cons {cs : List Char} (h : Numeral cs) :
    ∃ c rest, cs = c :: rest ∧ isDigit c = true := by
  cases h with
  | whole ds hne hds =>
      obtain ⟨c, rest, rfl⟩ := List.exists_cons_of_ne_nil hne
      exact ⟨c, rest, rfl, hds c (by simp)⟩
  | fraction ds fs hds hfs hdne hfne =>
      obtain ⟨c, rest, rfl⟩ := List.exists_cons_of_ne_nil hdne
      exact ⟨c, rest ++ '.' :: fs, rfl, hds c (by simp)⟩

theorem splitSign_of_digit {c : Char} {rest : List Char} (hc : isDigit c = true) :
    splitSign (c :: rest) = (false, c :: rest) := by
  unfold splitSign
  split
  next heq =>
    injection heq with heq
    subst heq
    simp [isDigit] at hc
  next heq =>
    injection heq with heq
    subst heq
    simp [isDigit] at hc
  next => rfl

/-- A text that starts with a digit is no word for a number. -/
theorem lower_ne_word
    {c : Char} {rest : List Char} {w : Char} {word : List Char}
    (hc : isDigit c = true) (hw : 'a' ≤ w) :
    (c :: rest).map Char.toLower ≠ w :: word := by
  intro heq
  have hlower : c.toLower = w := by
    simpa using congrArg List.head? heq
  simp only [isDigit, Bool.and_eq_true, decide_eq_true_eq] at hc
  have hsame : c.toLower = c := by
    unfold Char.toLower
    rw [dif_neg]
    rintro ⟨hA, -⟩
    have h9 := hc.2
    simp only [Char.le_def] at h9
    have : ('9' : Char).val < ('A' : Char).val := by decide
    exact absurd (UInt32.le_trans hA h9) (by decide)
  rw [hsame] at hlower
  subst hlower
  exact absurd (Char.le_trans hw hc.2) (by decide)

theorem no_word_of_digit {c : Char} (rest : List Char) (hc : isDigit c = true) :
    (c :: rest).map Char.toLower ≠ "inf".toList ∧
      (c :: rest).map Char.toLower ≠ "infinity".toList ∧
      (c :: rest).map Char.toLower ≠ "nan".toList :=
  ⟨lower_ne_word hc (by decide), lower_ne_word hc (by decide),
    lower_ne_word hc (by decide)⟩

/-! ## Reading a numeral -/

theorem readMagnitude?_whole
    {ds : List Char} (hne : ds ≠ []) (hds : ∀ c ∈ ds, isDigit c = true) :
    readMagnitude? ds = some (ofScientific (digitsValue ds) 0) := by
  obtain ⟨htake, hdrop⟩ :=
    takeWhile_append_of_stop [] hds (by simp)
  rw [List.append_nil] at htake hdrop
  obtain ⟨c, rest, rfl⟩ := List.exists_cons_of_ne_nil hne
  obtain ⟨hinf, hinfinity, hnan⟩ := no_word_of_digit rest (hds c (by simp))
  unfold readMagnitude?
  simp only [hinf, hinfinity, hnan, or_self, if_false, htake, hdrop]
  simp [readExponent?]

theorem readMagnitude?_fraction
    {ds fs : List Char} (hne : ds ≠ [])
    (hds : ∀ c ∈ ds, isDigit c = true) (hfs : ∀ c ∈ fs, isDigit c = true) :
    readMagnitude? (ds ++ '.' :: fs) =
      some (ofScientific (digitsValue (ds ++ fs)) (-fs.length)) := by
  obtain ⟨htake, hdrop⟩ :=
    takeWhile_append_of_stop ('.' :: fs) hds (by simp [isDigit])
  obtain ⟨hftake, hfdrop⟩ :=
    takeWhile_append_of_stop [] hfs (by simp)
  rw [List.append_nil] at hftake hfdrop
  obtain ⟨c, rest, rfl⟩ := List.exists_cons_of_ne_nil hne
  obtain ⟨hinf, hinfinity, hnan⟩ :=
    no_word_of_digit (rest ++ '.' :: fs) (hds c (by simp))
  rw [List.cons_append] at htake hdrop ⊢
  unfold readMagnitude?
  simp only [hinf, hinfinity, hnan, or_self, if_false, htake, hdrop, hftake, hfdrop]
  simp [readExponent?]

theorem readDouble?_of_digit
    {c : Char} {rest : List Char} (hc : isDigit c = true) :
    readDouble? (String.ofList (c :: rest)) = readMagnitude? (c :: rest) := by
  unfold readDouble?
  rw [String.toList_ofList, splitSign_of_digit hc]
  simp

theorem Numeral.exists_readMagnitude? {cs : List Char} (h : Numeral cs) :
    ∃ x, readMagnitude? cs = some x := by
  cases h with
  | whole _ hne hds => exact ⟨_, readMagnitude?_whole hne hds⟩
  | fraction ds fs hds hfs hdne hfne => exact ⟨_, readMagnitude?_fraction hdne hds hfs⟩

/-- Every numeral is read as a double. -/
theorem Numeral.exists_readDouble? {s : String} (h : Numeral s.toList) :
    ∃ x, readDouble? s = some x := by
  obtain ⟨c, rest, hcs, hc⟩ := h.exists_cons
  have hs : s = String.ofList (c :: rest) := by rw [← hcs, String.ofList_toList]
  obtain ⟨x, hx⟩ := h.exists_readMagnitude?
  rw [hcs] at hx
  exact ⟨x, by rw [hs, readDouble?_of_digit hc, hx]⟩

theorem lt_of_readNat? {bound n : Nat} {s : String} (h : readNat? bound s = some n) :
    n < bound := by
  obtain ⟨⟨-, -, hlt⟩, heq⟩ := Option.ite_none_right_eq_some.mp h
  injection heq with heq
  rwa [heq] at hlt

/-- A numeral is read as a whole number exactly when it has digits only and its
value is below the bound. -/
theorem Numeral.readNat?_eq_some_iff
    {bound n : Nat} {s : String} (h : Numeral s.toList) :
    readNat? bound s = some n ↔
      (∀ c ∈ s.toList, isDigit c = true) ∧
        digitsValue s.toList < bound ∧ n = digitsValue s.toList := by
  obtain ⟨c, rest, hcs, hc⟩ := h.exists_cons
  have hplus : c ≠ '+' := by
    rintro rfl
    simp [isDigit] at hc
  have hread : readNat? bound s =
      if (∀ d ∈ c :: rest, isDigit d = true) ∧ digitsValue (c :: rest) < bound then
        some (digitsValue (c :: rest))
      else none := by
    simp [readNat?, hcs, hplus]
  rw [hread, hcs]
  constructor
  · intro heq
    split at heq
    next hcond =>
      injection heq with heq
      exact ⟨hcond.1, hcond.2, heq.symm⟩
    next => cases heq
  · rintro ⟨hall, hlt, rfl⟩
    rw [if_pos ⟨hall, hlt⟩]

end TraceCheck.Decimal
