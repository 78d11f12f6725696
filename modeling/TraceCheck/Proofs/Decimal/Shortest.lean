import TraceCheck.Decimal.Shortest
import TraceCheck.Proofs.Decimal.Nearest

/-!
# The shortest decimal rounds to its double

The search for the shortest decimal goes from coarse grids to fine ones and
takes the first grid point that lies in the interval of the double.  With
seventeen digits the grid is finer than the interval, so that the search always
ends with such a point.
-/

namespace TraceCheck.Decimal

/-- The number that digits and an exponent stand for. -/
def Scientific.value (s : Scientific) : ℚ :=
  s.digits * (10 : ℚ) ^ s.exponent

theorem cast_powerOfTen (k : Nat) : (powerOfTen k : ℚ) = 10 ^ k := by
  unfold powerOfTen
  exact_mod_cast rfl

/-! ## The leading place -/

theorem pow_le_of_digitCount {n : Nat} (hn : n ≠ 0) : 10 ^ (digitCount n - 1) ≤ n := by
  unfold digitCount
  rw [if_neg hn]
  by_contra hlt
  rw [not_le] at hlt
  have hpos : 0 < (Nat.toDigits 10 n).length := Nat.length_toDigits_pos
  rcases Nat.eq_zero_or_pos ((Nat.toDigits 10 n).length - 1) with hone | hmore
  · rw [hone] at hlt
    omega
  · have := (Nat.length_toDigits_le_iff (by decide) hmore).mpr hlt
    omega

theorem lt_pow_digitCount (n : Nat) : n < 10 ^ digitCount n := by
  unfold digitCount
  split
  next hzero =>
    rw [hzero]
    decide
  next hne =>
    exact (Nat.length_toDigits_le_iff (by decide) Nat.length_toDigits_pos).mp (Nat.le_refl _)

/-- A quotient is at least ten to its leading place. -/
theorem pow_leadingPlace_le
    {num den : Nat} (hnum : 0 < num) (hden : 0 < den) :
    (10 : ℚ) ^ leadingPlace num den ≤ num / den := by
  have hnum' : (0 : ℚ) < num := by exact_mod_cast hnum
  have hden' : (0 : ℚ) < den := by exact_mod_cast hden
  unfold leadingPlace
  split
  next hle =>
    have hquot : num / den ≠ 0 := (Nat.div_pos hle hden).ne'
    have hcount : 0 < digitCount (num / den) := by
      unfold digitCount
      rw [if_neg hquot]
      exact Nat.length_toDigits_pos
    have hpow : 10 ^ (digitCount (num / den) - 1) * den ≤ num :=
      (Nat.le_div_iff_mul_le hden).mp (pow_le_of_digitCount hquot)
    rw [le_div_iff₀ hden', show (digitCount (num / den) : Int) - 1 =
      ((digitCount (num / den) - 1 : Nat) : Int) by omega, zpow_natCast]
    exact_mod_cast hpow
  next hlt =>
    have hcount := lt_pow_digitCount ((den + num - 1) / num - 1)
    have hmul : den ≤ (den + num - 1) / num * num := by
      have hsplit := Nat.div_add_mod (den + num - 1) num
      have hmod := Nat.mod_lt (den + num - 1) hnum
      rw [Nat.mul_comm] at hsplit
      omega
    have hpow : den ≤ 10 ^ digitCount ((den + num - 1) / num - 1) * num :=
      le_trans hmul (Nat.mul_le_mul_right num (by omega))
    rw [zpow_neg, zpow_natCast, le_div_iff₀ hden', inv_mul_le_iff₀ (by positivity)]
    exact_mod_cast hpow

/-! ## Intervals -/

namespace Interval

/-- The end, the value or the other end that a numerator stands for. -/
def ratio (i : Interval) (n : Nat) : ℚ :=
  n / i.scale

theorem contains_iff {i : Interval} {s : Scientific} (hscale : 0 < i.scale) :
    i.contains s = true ↔
      if i.closed then i.ratio i.low ≤ s.value ∧ s.value ≤ i.ratio i.high
      else i.ratio i.low < s.value ∧ s.value < i.ratio i.high := by
  have hscale' : (0 : ℚ) < i.scale := by exact_mod_cast hscale
  have hquot : ∃ num den : Nat, 0 < den ∧ s.value * i.scale = num / den ∧
      i.contains s =
        if i.closed then decide (i.low * den ≤ num) && decide (num ≤ i.high * den)
        else decide (i.low * den < num) && decide (num < i.high * den) := by
    unfold contains Scientific.value
    by_cases hnonneg : 0 ≤ s.exponent
    · refine ⟨s.digits * powerOfTen s.exponent.toNat * i.scale, 1, Nat.one_pos, ?_, ?_⟩
      · obtain ⟨k, hk⟩ := Int.eq_ofNat_of_zero_le hnonneg
        rw [hk, Int.toNat_natCast, zpow_natCast]
        push_cast
        rw [cast_powerOfTen, div_one]
      · simp only [if_pos hnonneg]
    · refine ⟨s.digits * i.scale, powerOfTen (-s.exponent).toNat, ?_, ?_, ?_⟩
      · exact Nat.pow_pos (by decide)
      · obtain ⟨k, hk⟩ := Int.eq_ofNat_of_zero_le (a := -s.exponent) (by omega)
        have hexp : s.exponent = -(k : Int) := by omega
        rw [hk, hexp, Int.toNat_natCast, zpow_neg, zpow_natCast]
        push_cast
        rw [cast_powerOfTen]
        field_simp
      · simp only [if_neg hnonneg]
  obtain ⟨num, den, hden, hvalue, hcontains⟩ := hquot
  have hden' : (0 : ℚ) < den := by exact_mod_cast hden
  have hle (n : Nat) : i.ratio n ≤ s.value ↔ n * den ≤ num := by
    unfold ratio
    rw [div_le_iff₀ hscale', hvalue, le_div_iff₀ hden']
    exact_mod_cast Iff.rfl
  have hge (n : Nat) : s.value ≤ i.ratio n ↔ num ≤ n * den := by
    unfold ratio
    rw [le_div_iff₀ hscale', hvalue, div_le_iff₀ hden']
    exact_mod_cast Iff.rfl
  rw [hcontains]
  split
  · rw [hle, hge, Bool.and_eq_true, decide_eq_true_eq, decide_eq_true_eq]
  · have hlt (n : Nat) : i.ratio n < s.value ↔ n * den < num := by
      rw [← not_le, hge, not_le]
    have hgt (n : Nat) : s.value < i.ratio n ↔ num < n * den := by
      rw [← not_le, hle, not_le]
    rw [hlt, hgt, Bool.and_eq_true, decide_eq_true_eq, decide_eq_true_eq]

theorem scale_ofBinary_pos (b : Binary) : 0 < (ofBinary b).scale := by
  unfold ofBinary
  dsimp only
  split
  · decide
  · rw [Nat.one_shiftLeft]
    positivity

/-- Numerators are in quarters of units of the last place. -/
theorem ratio_ofBinary (b : Binary) (n : Nat) :
    (ofBinary b).ratio (n * if 0 ≤ b.exponent then 1 <<< b.exponent.toNat else 1) =
      n / 4 * (2 : ℚ) ^ b.exponent := by
  unfold ratio ofBinary
  dsimp only
  split
  next hnonneg =>
    obtain ⟨k, hk⟩ := Int.eq_ofNat_of_zero_le hnonneg
    rw [hk, Int.toNat_natCast, zpow_natCast, Nat.one_shiftLeft]
    push_cast
    ring
  next hneg =>
    obtain ⟨k, hk⟩ := Int.eq_ofNat_of_zero_le (a := -b.exponent) (by omega)
    have hexp : b.exponent = -(k : Int) := by omega
    rw [hexp, Int.neg_neg, Int.toNat_natCast, zpow_neg, zpow_natCast, Nat.one_shiftLeft]
    push_cast
    field_simp

theorem ratio_value (b : Binary) : (ofBinary b).ratio (ofBinary b).value = b.value := by
  rw [show (ofBinary b).value = 4 * b.significand *
    (if 0 ≤ b.exponent then 1 <<< b.exponent.toNat else 1) from rfl, ratio_ofBinary,
    Binary.value]
  push_cast
  ring

theorem ratio_low {b : Binary} (hpos : 0 < b.significand) :
    (ofBinary b).ratio (ofBinary b).low = b.lower * (2 : ℚ) ^ b.exponent := by
  rw [show (ofBinary b).low = (4 * b.significand - if b.IsNarrow then 1 else 2) *
    (if 0 ≤ b.exponent then 1 <<< b.exponent.toNat else 1) from rfl, ratio_ofBinary,
    Binary.lower]
  split
  · rw [Nat.cast_sub (by omega)]
    push_cast
    ring
  · rw [Nat.cast_sub (by omega)]
    push_cast
    ring

theorem ratio_high (b : Binary) :
    (ofBinary b).ratio (ofBinary b).high = b.upper * (2 : ℚ) ^ b.exponent := by
  rw [show (ofBinary b).high = (4 * b.significand + 2) *
    (if 0 ≤ b.exponent then 1 <<< b.exponent.toNat else 1) from rfl, ratio_ofBinary,
    Binary.upper]
  push_cast
  ring

/-- A decimal in the interval of a double rounds to it. -/
theorem covers_of_contains
    {b : Binary} {s : Scientific} (hpos : 0 < b.significand)
    (hs : (ofBinary b).contains s = true) : b.Covers s.value := by
  rw [contains_iff (scale_ofBinary_pos b), ratio_low hpos, ratio_high] at hs
  split at hs
  next hclosed =>
    have heven : b.significand % 2 = 0 := of_decide_eq_true hclosed
    exact ⟨hs.1, hs.2, fun _ => heven⟩
  next hopen =>
    refine ⟨hs.1.le, hs.2.le, ?_⟩
    rintro (hend | hend)
    · exact absurd hend hs.1.ne
    · exact absurd hend hs.2.ne

/-- A decimal strictly between the ends of the interval is in it. -/
theorem contains_of_between
    {b : Binary} {s : Scientific} (hpos : 0 < b.significand)
    (hlow : b.lower * (2 : ℚ) ^ b.exponent < s.value)
    (hhigh : s.value < b.upper * (2 : ℚ) ^ b.exponent) :
    (ofBinary b).contains s = true := by
  rw [contains_iff (scale_ofBinary_pos b), ratio_low hpos, ratio_high]
  split
  · exact ⟨hlow.le, hhigh.le⟩
  · exact ⟨hlow, hhigh⟩

/-! ## Grids -/

/-- The value lies between two points of each grid. -/
theorem below_spec {i : Interval} (hscale : 0 < i.scale) (exponent : Int) :
    Scientific.value ⟨(i.below exponent).1, exponent⟩ ≤ i.ratio i.value ∧
      i.ratio i.value < Scientific.value ⟨(i.below exponent).1 + 1, exponent⟩ := by
  have hscale' : (0 : ℚ) < i.scale := by exact_mod_cast hscale
  have hpow : (0 : ℚ) < (10 : ℚ) ^ exponent := by positivity
  have hquot : ∃ num den : Nat, 0 < den ∧ (i.below exponent).1 = num / den ∧
      i.ratio i.value / (10 : ℚ) ^ exponent = num / den := by
    unfold below ratio
    by_cases hnonneg : 0 ≤ exponent
    · refine ⟨i.value, i.scale * powerOfTen exponent.toNat, ?_, ?_, ?_⟩
      · exact Nat.mul_pos hscale (Nat.pow_pos (by decide))
      · simp only [if_pos hnonneg]
      · obtain ⟨k, rfl⟩ := Int.eq_ofNat_of_zero_le hnonneg
        rw [Int.toNat_natCast, zpow_natCast]
        push_cast
        rw [cast_powerOfTen, div_div]
    · refine ⟨i.value * powerOfTen (-exponent).toNat, i.scale, hscale, ?_, ?_⟩
      · simp only [if_neg hnonneg]
      · obtain ⟨k, hk⟩ := Int.eq_ofNat_of_zero_le (a := -exponent) (by omega)
        obtain rfl : exponent = -(k : Int) := by omega
        rw [Int.neg_neg, Int.toNat_natCast, zpow_neg, zpow_natCast]
        push_cast
        rw [cast_powerOfTen]
        field_simp
  obtain ⟨num, den, hden, hbelow, hvalue⟩ := hquot
  have hden' : (0 : ℚ) < den := by exact_mod_cast hden
  unfold Scientific.value
  dsimp only
  rw [← le_div_iff₀ hpow, ← div_lt_iff₀ hpow, hbelow, hvalue, le_div_iff₀ hden',
    div_lt_iff₀ hden']
  constructor
  · exact_mod_cast Nat.div_mul_le_self num den
  · exact_mod_cast Nat.lt_mul_of_div_lt (Nat.lt_succ_self (num / den)) hden

/-- A candidate on a grid is in the interval. -/
theorem contains_of_onGrid
    {i : Interval} {tie : Tie} {exponent : Int} {s : Scientific}
    (hs : i.onGrid tie exponent = some s) : i.contains s = true := by
  unfold onGrid at hs
  dsimp only at hs
  split at hs
  next => cases hs
  next hlower _ =>
    injection hs with hs
    rw [← hs, hlower]
  next _ hupper =>
    injection hs with hs
    rw [← hs, hupper]
  next hlower hupper =>
    have hcases : some s = some ⟨(i.below exponent).1, exponent⟩ ∨
        some s = some ⟨(i.below exponent).1 + 1, exponent⟩ := by
      rw [← hs]
      split
      · exact Or.inl rfl
      · exact Or.inr rfl
      · exact Or.inr rfl
      · split
        · exact Or.inl rfl
        · exact Or.inr rfl
    rcases hcases with hcase | hcase
    · injection hcase with hcase
      rw [hcase, hlower]
    · injection hcase with hcase
      rw [hcase, hupper]

/-- A grid with a point next to the value in the interval has a candidate. -/
theorem exists_onGrid
    {i : Interval} {exponent : Int} (tie : Tie)
    (h : i.contains ⟨(i.below exponent).1, exponent⟩ = true ∨
      i.contains ⟨(i.below exponent).1 + 1, exponent⟩ = true) :
    ∃ s, i.onGrid tie exponent = some s := by
  unfold onGrid
  dsimp only
  split
  next hlower hupper =>
    rw [hlower, hupper] at h
    rcases h with h | h <;> cases h
  next => exact ⟨_, rfl⟩
  next => exact ⟨_, rfl⟩
  next =>
    split
    · exact ⟨_, rfl⟩
    · exact ⟨_, rfl⟩
    · exact ⟨_, rfl⟩
    · exact ⟨_, rfl⟩

/-- The search ends in the interval if one of its grids has a candidate. -/
theorem contains_search
    {i : Interval} {tie : Tie} {place : Int} {grids size k : Nat} (hk : k < grids)
    (h : ∃ s, i.onGrid tie (place + 1 - ((size + k : Nat) : Int)) = some s) :
    i.contains (i.search tie place grids size) = true := by
  induction grids generalizing size k with
  | zero => cases hk
  | succ grids ih =>
      unfold search
      split
      next s hs => exact contains_of_onGrid hs
      next hnone =>
        cases k with
        | zero =>
            obtain ⟨s, hs⟩ := h
            rw [Nat.add_zero, hnone] at hs
            cases hs
        | succ k =>
            refine ih (k := k) (by omega) ?_
            rw [show size + 1 + k = size + (k + 1) by omega]
            exact h

/-- Seventeen digits suffice: one of the two decimals next to a double lies in
its interval.  A step of the grid is at most `10 ^ -16` of the value, which is
less than twice the distance to the ends, since `2 ^ 53 < 10 ^ 16`. -/
theorem contains_of_fine
    {b : Binary} {exponent : Int} (hb : b.IsNormalized) (hpos : 0 < b.significand)
    (hfine : 10 ^ 16 * (10 : ℚ) ^ exponent ≤ b.value) :
    (ofBinary b).contains ⟨((ofBinary b).below exponent).1, exponent⟩ = true ∨
      (ofBinary b).contains ⟨((ofBinary b).below exponent).1 + 1, exponent⟩ = true := by
  obtain ⟨hle, hlt⟩ := below_spec (scale_ofBinary_pos b) exponent
  rw [ratio_value] at hle hlt
  have hunit : (0 : ℚ) < (2 : ℚ) ^ b.exponent := by positivity
  have hsig : (b.significand : ℚ) < 2 ^ 53 := by exact_mod_cast hb.significand_lt
  have hstep : (10 : ℚ) ^ exponent < (2 : ℚ) ^ b.exponent := by
    have hvalue : b.value < 2 ^ 53 * (2 : ℚ) ^ b.exponent := by
      unfold Binary.value
      gcongr
    linarith
  have hupper : b.value + (2 : ℚ) ^ b.exponent / 2 = b.upper * (2 : ℚ) ^ b.exponent := by
    unfold Binary.value Binary.upper
    ring
  have hlower : b.lower * (2 : ℚ) ^ b.exponent < b.value - (10 : ℚ) ^ exponent / 2 := by
    unfold Binary.lower
    split
    next hnarrow =>
      have hvalue : b.value = 2 ^ 52 * (2 : ℚ) ^ b.exponent := by
        unfold Binary.value
        rw [hnarrow.1]
        norm_num
      have hexpand : (b.significand - 1 / 4 : ℚ) * (2 : ℚ) ^ b.exponent =
          b.value - (2 : ℚ) ^ b.exponent / 4 := by
        unfold Binary.value
        ring
      rw [hexpand]
      linarith
    next =>
      have hexpand : (b.significand - 1 / 2 : ℚ) * (2 : ℚ) ^ b.exponent =
          b.value - (2 : ℚ) ^ b.exponent / 2 := by
        unfold Binary.value
        ring
      rw [hexpand]
      linarith
  have hnext : Scientific.value ⟨((ofBinary b).below exponent).1 + 1, exponent⟩ =
      Scientific.value ⟨((ofBinary b).below exponent).1, exponent⟩ + (10 : ℚ) ^ exponent := by
    unfold Scientific.value
    push_cast
    ring
  rcases le_or_gt (b.value - (10 : ℚ) ^ exponent / 2)
    (Scientific.value ⟨((ofBinary b).below exponent).1, exponent⟩) with hnear | hfar
  · exact Or.inl (contains_of_between hpos (by linarith) (by linarith))
  · exact Or.inr (contains_of_between hpos (by linarith) (by linarith))

end Interval

/-! ## The shortest decimal -/

theorem contains_search_leadingPlace
    {b : Binary} (tie : Tie) (hb : b.IsNormalized) (hpos : 0 < b.significand) :
    (Interval.ofBinary b).contains ((Interval.ofBinary b).search tie
      (leadingPlace (Interval.ofBinary b).value (Interval.ofBinary b).scale) 17 1) = true := by
  have hscale := Interval.scale_ofBinary_pos b
  have hvalue : 0 < (Interval.ofBinary b).value := by
    have hunit : (0 : ℚ) < (2 : ℚ) ^ b.exponent := by positivity
    have hsig : (0 : ℚ) < b.significand := by exact_mod_cast hpos
    have hratio : (0 : ℚ) < (Interval.ofBinary b).ratio (Interval.ofBinary b).value := by
      rw [Interval.ratio_value]
      exact mul_pos hsig hunit
    by_contra hzero
    have hnil : (Interval.ofBinary b).value = 0 := by omega
    simp [Interval.ratio, hnil] at hratio
  have hplace := pow_leadingPlace_le hvalue hscale
  rw [show ((Interval.ofBinary b).value : ℚ) / (Interval.ofBinary b).scale = b.value from
    Interval.ratio_value b] at hplace
  generalize leadingPlace (Interval.ofBinary b).value (Interval.ofBinary b).scale = place
    at hplace
  refine Interval.contains_search (k := 16) (by decide) (Interval.exists_onGrid tie ?_)
  refine Interval.contains_of_fine hb hpos ?_
  calc (10 : ℚ) ^ 16 * (10 : ℚ) ^ (place + 1 - ((1 + 16 : Nat) : Int))
      = (10 : ℚ) ^ place := by
        rw [← zpow_natCast, ← zpow_add₀ (by norm_num)]
        congr 1
        push_cast
        ring
    _ ≤ b.value := hplace

end TraceCheck.Decimal
