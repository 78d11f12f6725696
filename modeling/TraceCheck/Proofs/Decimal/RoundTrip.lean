import TraceCheck.Proofs.Decimal.Numeral
import TraceCheck.Proofs.Decimal.Shortest

/-!
# Reading what was written

The positional text of a plain double is a numeral, and reading it gives the
double back.
-/

namespace TraceCheck.Decimal

/-! ## Digits -/

theorem digitsValue_eq (cs : List Char) : digitsValue cs = Nat.ofDigitChars 10 cs 0 := by
  rw [Nat.ofDigitChars_eq_foldl]
  unfold digitsValue
  congr 1
  funext n c
  rw [Nat.mul_comm]
  rfl

theorem digitsValue_text (s : Scientific) : digitsValue s.text = s.digits := by
  rw [digitsValue_eq]
  exact Nat.ofDigitChars_ten_toDigits

theorem digitsValue_append_zeros (cs : List Char) (k : Nat) :
    digitsValue (cs ++ List.replicate k '0') = digitsValue cs * 10 ^ k := by
  rw [digitsValue_eq, digitsValue_eq, Nat.ofDigitChars_append,
    Nat.ofDigitChars_replicate_zero, Nat.mul_comm]

theorem digitsValue_zeros_append (cs : List Char) (k : Nat) :
    digitsValue (List.replicate k '0' ++ cs) = digitsValue cs := by
  rw [digitsValue_eq, digitsValue_eq, Nat.ofDigitChars_append,
    Nat.ofDigitChars_replicate_zero, Nat.mul_zero]

theorem isDigit_of_mem_text {s : Scientific} : ∀ c ∈ s.text, isDigit c = true :=
  fun _ hc => Nat.isDigit_of_mem_toDigits (by decide) (by decide) hc

theorem isDigit_of_mem_zeros {k : Nat} : ∀ c ∈ List.replicate k '0', isDigit c = true := by
  intro c hc
  rw [List.eq_of_mem_replicate hc]
  rfl

theorem text_ne_nil (s : Scientific) : s.text ≠ [] :=
  Nat.toDigits_ne_nil

/-! ## Positional notation -/

/-- A numeral that is read as a decimal of some value. -/
structure ReadsAs (cs : List Char) (v : ℚ) : Prop where
  numeral : Numeral cs
  read : ∃ digits exponent, readMagnitude? cs = some (ofScientific digits exponent) ∧
    Scientific.value ⟨digits, exponent⟩ = v

theorem readsAs_whole
    {cs : List Char} (hne : cs ≠ []) (hcs : ∀ c ∈ cs, isDigit c = true) :
    ReadsAs cs (digitsValue cs) := by
  refine ⟨.whole cs hne hcs, digitsValue cs, 0, readMagnitude?_whole hne hcs, ?_⟩
  unfold Scientific.value
  rw [zpow_zero, mul_one]

theorem readsAs_fraction
    {ds fs : List Char} (hdne : ds ≠ []) (hfne : fs ≠ [])
    (hds : ∀ c ∈ ds, isDigit c = true) (hfs : ∀ c ∈ fs, isDigit c = true) :
    ReadsAs (ds ++ '.' :: fs) (Scientific.value ⟨digitsValue (ds ++ fs), -fs.length⟩) :=
  ⟨.fraction ds fs hds hfs hdne hfne, _, _, readMagnitude?_fraction hdne hds hfs, rfl⟩

namespace Scientific

theorem readsAs_append_zeros {s : Scientific} (hnonneg : 0 ≤ s.exponent) :
    ReadsAs (s.text ++ List.replicate s.exponent.toNat '0') s.value := by
  have hne : s.text ++ List.replicate s.exponent.toNat '0' ≠ [] := by
    simp [text_ne_nil]
  have hdigits : ∀ c ∈ s.text ++ List.replicate s.exponent.toNat '0', isDigit c = true :=
    List.forall_mem_append.mpr ⟨isDigit_of_mem_text, isDigit_of_mem_zeros⟩
  have hvalue :
      (digitsValue (s.text ++ List.replicate s.exponent.toNat '0') : ℚ) = s.value := by
    obtain ⟨k, hk⟩ := Int.eq_ofNat_of_zero_le hnonneg
    rw [digitsValue_append_zeros, digitsValue_text]
    unfold value
    rw [hk, Int.toNat_natCast, zpow_natCast]
    push_cast
    ring
  rw [← hvalue]
  exact readsAs_whole hne hdigits

theorem readsAs_split
    {s : Scientific} {k : Nat} (hk : s.exponent = -(k : Int)) (hpos : 0 < k)
    (hlt : k < s.text.length) :
    ReadsAs (s.text.take (s.text.length - k) ++ '.' :: s.text.drop (s.text.length - k))
      s.value := by
  have hlen : (s.text.drop (s.text.length - k)).length = k := by
    rw [List.length_drop]
    omega
  have hwne : s.text.take (s.text.length - k) ≠ [] := by
    rw [← List.length_pos_iff, List.length_take]
    omega
  have hfne : s.text.drop (s.text.length - k) ≠ [] := by
    rw [← List.length_pos_iff, hlen]
    omega
  have hwhole : ∀ c ∈ s.text.take (s.text.length - k), isDigit c = true := by
    intro c hc
    exact isDigit_of_mem_text c (List.mem_of_mem_take hc)
  have hfraction : ∀ c ∈ s.text.drop (s.text.length - k), isDigit c = true := by
    intro c hc
    exact isDigit_of_mem_text c (List.mem_of_mem_drop hc)
  have hreads := readsAs_fraction hwne hfne hwhole hfraction
  rw [List.take_append_drop, digitsValue_text, hlen, ← hk] at hreads
  exact hreads

theorem readsAs_zeros_append
    {s : Scientific} {k : Nat} (hk : s.exponent = -(k : Int)) (hge : s.text.length ≤ k) :
    ReadsAs ('0' :: '.' :: (List.replicate (k - s.text.length) '0' ++ s.text)) s.value := by
  have hlen : (List.replicate (k - s.text.length) '0' ++ s.text).length = k := by
    rw [List.length_append, List.length_replicate]
    omega
  have hfne : List.replicate (k - s.text.length) '0' ++ s.text ≠ [] := by
    simp [text_ne_nil]
  have hwhole : ∀ c ∈ ['0'], isDigit c = true := by simp [isDigit]
  have hfraction : ∀ c ∈ List.replicate (k - s.text.length) '0' ++ s.text, isDigit c = true :=
    List.forall_mem_append.mpr ⟨isDigit_of_mem_zeros, isDigit_of_mem_text⟩
  have hreads := readsAs_fraction (List.cons_ne_nil _ _) hfne hwhole hfraction
  have hzeros :
      digitsValue (['0'] ++ (List.replicate (k - s.text.length) '0' ++ s.text)) = s.digits :=
    (digitsValue_zeros_append s.text (k - s.text.length + 1)).trans (digitsValue_text s)
  rw [hzeros, hlen, ← hk] at hreads
  exact hreads

/-- The positional text of a decimal is a numeral that is read as a decimal of
the same value. -/
theorem readsAs_positional (s : Scientific) : ReadsAs s.positional s.value := by
  unfold positional
  dsimp only
  by_cases hnonneg : 0 ≤ s.exponent
  · rw [if_pos hnonneg]
    exact readsAs_append_zeros hnonneg
  · obtain ⟨k, hk⟩ := Int.eq_ofNat_of_zero_le (a := -s.exponent) (by omega)
    have hexp : s.exponent = -(k : Int) := by omega
    rw [if_neg hnonneg, hk, Int.toNat_natCast]
    split
    next hlt => exact readsAs_split hexp (by omega) hlt
    next hge => exact readsAs_zeros_append hexp (by omega)

end Scientific

/-! ## The double of a decimal -/

/-- The size of a decimal gives bounds for its value. -/
theorem value_bounds {digits : Nat} (hdigits : digits ≠ 0) (exponent : Int) :
    (10 : ℚ) ^ (exponent + (Nat.toDigits 10 digits).length - 1) ≤
        Scientific.value ⟨digits, exponent⟩ ∧
      Scientific.value ⟨digits, exponent⟩ <
        (10 : ℚ) ^ (exponent + (Nat.toDigits 10 digits).length) := by
  have hpow : (0 : ℚ) < (10 : ℚ) ^ exponent := by positivity
  have hcount : digitCount digits = (Nat.toDigits 10 digits).length := if_neg hdigits
  have hpos : 0 < (Nat.toDigits 10 digits).length := Nat.length_toDigits_pos
  have hlow := pow_le_of_digitCount hdigits
  have hhigh := lt_pow_digitCount digits
  rw [hcount] at hlow hhigh
  generalize (Nat.toDigits 10 digits).length = n at *
  have hlow' : (10 : ℚ) ^ (n - 1) ≤ digits := by exact_mod_cast hlow
  have hhigh' : (digits : ℚ) < 10 ^ n := by exact_mod_cast hhigh
  unfold Scientific.value
  dsimp only
  constructor
  · rw [show exponent + (n : Int) - 1 = ((n - 1 : Nat) : Int) + exponent by omega,
      zpow_add₀ (by norm_num), zpow_natCast]
    gcongr
  · rw [add_comm, zpow_add₀ (by norm_num), zpow_natCast]
    gcongr

theorem two_pow_lt_ten_pow {k n : Nat} (h : 2 ^ k < 10 ^ n) : (2 : ℚ) ^ k < 10 ^ n := by
  exact_mod_cast h

/-- The values that round to a double are neither too large nor too small. -/
theorem Binary.Covers.bounds
    {b : Binary} {v : ℚ} (hb : b.IsNormalized) (hpos : 0 < b.significand) (hv : b.Covers v) :
    (10 : ℚ) ^ (-401 : Int) < v ∧ v < (10 : ℚ) ^ (400 : Int) := by
  have hone : (1 : ℚ) ≤ b.significand := by exact_mod_cast hpos
  have hsig : (b.significand : ℚ) + 1 ≤ 2 ^ 53 := by exact_mod_cast hb.significand_lt
  constructor
  · have hsmall : (2 : ℚ) ^ 1075 < 10 ^ 401 := two_pow_lt_ten_pow (by decide +kernel)
    calc (10 : ℚ) ^ (-401 : Int) = 1 / 10 ^ 401 := by rw [zpow_neg, one_div]; rfl
      _ < 1 / 2 ^ 1075 := by gcongr
      _ = 1 / 2 * (2 : ℚ) ^ (-1074 : Int) := by
          rw [zpow_neg, pow_succ, mul_comm, one_div, one_div, mul_inv]
          rfl
      _ ≤ b.lower * (2 : ℚ) ^ b.exponent := by
          have hlower : 1 / 2 ≤ b.lower := by linarith [b.sub_half_le_lower]
          have hunit : (2 : ℚ) ^ (-1074 : Int) ≤ (2 : ℚ) ^ b.exponent :=
            zpow_le_zpow_right₀ one_le_two hb.exponent_ge
          gcongr
      _ ≤ v := hv.lower_le
  · have hlarge : (2 : ℚ) ^ 1024 < 10 ^ 400 := two_pow_lt_ten_pow (by decide +kernel)
    calc v ≤ b.upper * (2 : ℚ) ^ b.exponent := hv.le_upper
      _ ≤ 2 ^ 53 * (2 : ℚ) ^ (971 : Int) := by
          have hupper : b.upper ≤ 2 ^ 53 := by
            unfold Binary.upper
            linarith
          have hunit : (2 : ℚ) ^ b.exponent ≤ (2 : ℚ) ^ (971 : Int) :=
            zpow_le_zpow_right₀ one_le_two hb.exponent_le
          gcongr
      _ = (2 : ℚ) ^ 1024 := (pow_add (2 : ℚ) 53 971).symm
      _ < (10 : ℚ) ^ (400 : Int) := hlarge

/-- A decimal that rounds to a double is read as that double. -/
theorem ofScientific_eq
    {b : Binary} {digits : Nat} {exponent : Int} (hb : b.IsNormalized)
    (hpos : 0 < b.significand) (hv : b.Covers (Scientific.value ⟨digits, exponent⟩)) :
    ofScientific digits exponent = b.toFloat := by
  obtain ⟨hmin, hmax⟩ := hv.bounds hb hpos
  have hdigits : digits ≠ 0 := by
    rintro rfl
    have hzero : Scientific.value ⟨0, exponent⟩ = 0 := by simp [Scientific.value]
    rw [hzero] at hmin
    exact absurd hmin (not_lt.mpr (by positivity))
  obtain ⟨hlow, hhigh⟩ := value_bounds hdigits exponent
  have hlarge : ¬400 < exponent + (Nat.toDigits 10 digits).length := by
    intro hlt
    have := (zpow_lt_zpow_iff_right₀ (by norm_num : (1 : ℚ) < 10)).mp (lt_of_le_of_lt hlow hmax)
    omega
  have hsmall : ¬exponent + (Nat.toDigits 10 digits).length < -400 := by
    intro hlt
    have := (zpow_lt_zpow_iff_right₀ (by norm_num : (1 : ℚ) < 10)).mp (lt_trans hmin hhigh)
    omega
  unfold ofScientific
  dsimp only
  rw [if_neg hdigits, if_neg hlarge, if_neg hsmall]
  unfold Scientific.value at hv
  dsimp only at hv
  split
  next hnonneg =>
    refine nearest_eq hb hpos Nat.one_pos ?_
    obtain ⟨k, rfl⟩ := Int.eq_ofNat_of_zero_le hnonneg
    rw [Int.toNat_natCast]
    push_cast
    rw [cast_powerOfTen, div_one]
    rw [zpow_natCast] at hv
    exact hv
  next hneg =>
    refine nearest_eq hb hpos (Nat.pow_pos (by decide)) ?_
    obtain ⟨k, hk⟩ := Int.eq_ofNat_of_zero_le (a := -exponent) (by omega)
    obtain rfl : exponent = -(k : Int) := by omega
    rw [Int.neg_neg, Int.toNat_natCast, cast_powerOfTen]
    rw [zpow_neg, zpow_natCast, ← div_eq_mul_inv] at hv
    exact hv

/-! ## Plain doubles -/

theorem value_trimmed_go (s : Scientific) (fuel : Nat) :
    (Scientific.trimmed.go s fuel).value = s.value := by
  induction fuel generalizing s with
  | zero => rfl
  | succ fuel ih =>
      unfold Scientific.trimmed.go
      split
      next hzero =>
        rw [ih]
        have hdigits : s.digits = s.digits / 10 * 10 := by omega
        unfold Scientific.value
        conv_rhs => rw [hdigits]
        dsimp only
        rw [zpow_add_one₀ (by norm_num)]
        push_cast
        ring
      next => rfl

theorem significand_pos
    {x : Float} (hzero : (x == 0) = false) :
    0 < (Binary.ofFloat x).significand := by
  have hne : ¬(biasedExponent x = 0 ∧ fraction x = 0) := by
    rw [← beq_zero_iff, hzero]
    decide
  rw [ofFloat_eq]
  split
  next hexp =>
    dsimp only
    omega
  next => exact Nat.add_pos_left (by decide) _

theorem covers_shortest
    {x : Float} (tie : Tie) (hx : IsPlain x) (hzero : (x == 0) = false) :
    (Binary.ofFloat x).Covers (shortest tie x).value := by
  have hpos := significand_pos hzero
  unfold shortest Scientific.trimmed
  dsimp only
  rw [value_trimmed_go]
  exact Interval.covers_of_contains hpos
    (contains_search_leadingPlace tie (isNormalized_ofFloat hx) hpos)

theorem IsPlain.positional_eq {x : Float} (hx : IsPlain x) :
    (positional x).toList = if x == 0 then ['0'] else (shortest .up x).positional := by
  unfold positional
  rw [hx.number, hx.bounded, hx.positive]
  simp

/-- A plain double that equals zero is the zero that zero digits are read as. -/
theorem eq_zero_of_beq {x : Float} (hx : IsPlain x) (hzero : (x == 0) = true) :
    x = Float.ofBits 0 := by
  obtain ⟨hexp, hfrac⟩ := (beq_zero_iff x).mp hzero
  have hbits := hx.toNat_toBits
  rw [hexp, hfrac] at hbits
  have hzero : x.toBits = 0 := UInt64.toNat_inj.mp hbits
  rw [← hzero, ofBits_toBits hx.biasedExponent_ne]

theorem IsPlain.numeral {x : Float} (hx : IsPlain x) : Numeral (positional x).toList := by
  rw [hx.positional_eq]
  split
  · exact .whole ['0'] (List.cons_ne_nil _ _) (by simp [isDigit])
  · exact (Scientific.readsAs_positional _).numeral

/-- Reading the text of a plain double gives the double back. -/
theorem readDouble?_positional {x : Float} (hx : IsPlain x) :
    readDouble? (positional x) = some x := by
  have hread : readMagnitude? (positional x).toList = some x := by
    rw [hx.positional_eq]
    split
    next hzero =>
      rw [readMagnitude?_whole (List.cons_ne_nil _ _) (by simp [isDigit]), eq_zero_of_beq hx hzero]
      rfl
    next hne =>
      have hzero : (x == 0) = false := by simpa using hne
      obtain ⟨digits, exponent, hread, hvalue⟩ :=
        (Scientific.readsAs_positional (shortest .up x)).read
      have hcovers := covers_shortest .up hx hzero
      rw [← hvalue] at hcovers
      rw [hread, ofScientific_eq (isNormalized_ofFloat hx) (significand_pos hzero) hcovers,
        toFloat_ofFloat hx]
  obtain ⟨c, rest, hcs, hc⟩ := hx.numeral.exists_cons
  rw [hcs] at hread
  rw [show positional x = String.ofList (c :: rest) by rw [← hcs, String.ofList_toList],
    readDouble?_of_digit hc, hread]

/-- A double that is not plain is written as a word or with a minus sign. -/
theorem isPlain_or_positional (x : Float) :
    IsPlain x ∨ positional x = "NaN" ∨ positional x = "inf" ∨
      ∃ cs, (positional x).toList = '-' :: cs ∧ (cs = "inf".toList ∨ Numeral cs) := by
  cases hnan : x.isNaN with
  | true => exact .inr (.inl (by rw [positional, hnan, if_pos rfl]))
  | false =>
      cases hneg : isNegative x with
      | false =>
          cases hinf : x.isInf with
          | false => exact .inl ⟨hnan, hinf, hneg⟩
          | true =>
              refine .inr (.inr (.inl ?_))
              rw [positional, hnan, hneg, hinf]
              rfl
      | true =>
          have hpositional : (positional x).toList =
              '-' :: (if x.isInf then ['i', 'n', 'f']
                else if x == 0 then ['0']
                else (shortest .up x).positional) := by
            rw [positional, hnan, hneg]
            simp
          refine .inr (.inr (.inr ⟨_, hpositional, ?_⟩))
          cases x.isInf with
          | true => exact .inl rfl
          | false =>
              right
              split
              · contradiction
              split
              · exact .whole ['0'] (List.cons_ne_nil _ _) (by simp [isDigit])
              · exact (Scientific.readsAs_positional _).numeral

/-! ## Whole numbers -/

theorem toList_toString (n : Nat) : (toString n).toList = Nat.toDigits 10 n := by
  rw [Nat.toString_eq_repr, Nat.toList_repr]

theorem isDigit_of_mem_toString (n : Nat) : ∀ c ∈ (toString n).toList, isDigit c = true := by
  rw [toList_toString]
  exact fun _ hc => Nat.isDigit_of_mem_toDigits (by decide) (by decide) hc

theorem digitsValue_toString (n : Nat) : digitsValue (toString n).toList = n := by
  rw [toList_toString, digitsValue_eq]
  exact Nat.ofDigitChars_ten_toDigits

theorem numeral_toString (n : Nat) : Numeral (toString n).toList := by
  refine .whole _ ?_ (isDigit_of_mem_toString n)
  rw [toList_toString]
  exact Nat.toDigits_ne_nil

end TraceCheck.Decimal
