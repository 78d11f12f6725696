import Mathlib.Algebra.Order.Field.Power
import Mathlib.Algebra.Order.Field.Rat
import Mathlib.Tactic.FieldSimp
import Mathlib.Tactic.Linarith
import Mathlib.Tactic.Positivity
import Mathlib.Tactic.Ring
import TraceCheck.Proofs.Decimal.Bits

/-!
# The nearest double

A positive rational rounds to the double in whose interval it lies: halfway to
the neighbours on both sides, where the lower neighbour of a power of two is
only half as far away.  The ends belong to the interval when the significand is
even.
-/

namespace TraceCheck.Decimal

/-! ## Rounding quotients -/

/-- A quotient is rounded to the number that it is closest to, or to the even
one of two such numbers. -/
theorem roundDiv_eq
    {num den m : Nat} (hden : 0 < den) (hlow : 2 * (m * den) ≤ 2 * num + den)
    (hhigh : 2 * num ≤ 2 * (m * den) + den)
    (htie : 2 * (m * den) = 2 * num + den ∨ 2 * num = 2 * (m * den) + den → m % 2 = 0) :
    roundDiv num den = m := by
  have hsplit := Nat.div_add_mod num den
  have hrest := Nat.mod_lt num hden
  have hle : num / den ≤ m := by
    by_contra hlt
    have hmul : (m + 1) * den ≤ num / den * den := Nat.mul_le_mul_right den (by omega)
    rw [Nat.mul_comm] at hsplit
    rw [Nat.add_mul] at hmul
    omega
  have hge : m ≤ num / den + 1 := by
    by_contra hlt
    have hmul : (num / den + 2) * den ≤ m * den := Nat.mul_le_mul_right den (by omega)
    rw [Nat.mul_comm] at hsplit
    rw [Nat.add_mul] at hmul
    omega
  unfold roundDiv
  dsimp only
  rcases Nat.lt_or_eq_of_le hge with hlt | heq
  · obtain rfl : m = num / den := by omega
    rw [Nat.mul_comm (num / den)] at hlow hhigh htie
    split
    · rfl
    split
    next hgt => omega
    split
    · rfl
    next hodd => exact absurd (htie (by omega)) hodd
  · have hprod : m * den = num / den * den + den := by rw [heq, Nat.add_mul, Nat.one_mul]
    rw [Nat.mul_comm] at hsplit
    rw [hprod] at hlow hhigh htie
    split
    next hlt => omega
    split
    · exact heq.symm
    split
    next heven =>
      have := htie (by omega)
      omega
    · exact heq.symm

theorem roundDiv_eq_of_rat
    {num den m : Nat} (hden : 0 < den) (hlow : (m : ℚ) - 1 / 2 ≤ num / den)
    (hhigh : (num : ℚ) / den ≤ m + 1 / 2)
    (htie : (m : ℚ) - 1 / 2 = num / den ∨ (num : ℚ) / den = m + 1 / 2 → m % 2 = 0) :
    roundDiv num den = m := by
  have hden' : (0 : ℚ) < den := by exact_mod_cast hden
  rw [le_div_iff₀ hden'] at hlow
  rw [div_le_iff₀ hden'] at hhigh
  rw [eq_div_iff hden'.ne', div_eq_iff hden'.ne'] at htie
  apply roundDiv_eq hden
  · have h : (2 * (m * den) : ℚ) ≤ 2 * num + den := by linarith
    exact_mod_cast h
  · have h : (2 * num : ℚ) ≤ 2 * (m * den) + den := by linarith
    exact_mod_cast h
  · rintro (h | h)
    · have h' : (2 * (m * den) : ℚ) = 2 * num + den := by exact_mod_cast h
      exact htie (Or.inl (by linarith))
    · have h' : (2 * num : ℚ) = 2 * (m * den) + den := by exact_mod_cast h
      exact htie (Or.inr (by linarith))

theorem cast_shiftLeft (n k : Nat) : ((n <<< k : Nat) : ℚ) = n * 2 ^ k := by
  rw [Nat.shiftLeft_eq]
  push_cast
  ring

theorem roundScaled_eq
    {num den m : Nat} {exponent : Int} (hden : 0 < den)
    (hlow : (m - 1 / 2) * (2 : ℚ) ^ exponent ≤ num / den)
    (hhigh : (num : ℚ) / den ≤ (m + 1 / 2) * (2 : ℚ) ^ exponent)
    (htie : (m - 1 / 2) * (2 : ℚ) ^ exponent = num / den ∨
      (num : ℚ) / den = (m + 1 / 2) * (2 : ℚ) ^ exponent → m % 2 = 0) :
    roundScaled num den exponent = m := by
  have hpow : (0 : ℚ) < (2 : ℚ) ^ exponent := by positivity
  have hquotient : ∃ a b : Nat, roundScaled num den exponent = roundDiv a b ∧ 0 < b ∧
      (a : ℚ) / b = num / den / (2 : ℚ) ^ exponent := by
    unfold roundScaled
    split
    next hnonneg =>
      refine ⟨num, den <<< exponent.toNat, rfl, ?_, ?_⟩
      · rw [Nat.shiftLeft_eq]
        positivity
      · obtain ⟨k, rfl⟩ := Int.eq_ofNat_of_zero_le hnonneg
        rw [Int.toNat_natCast, cast_shiftLeft, zpow_natCast, div_div]
    next hneg =>
      refine ⟨num <<< (-exponent).toNat, den, rfl, hden, ?_⟩
      obtain ⟨k, hk⟩ := Int.eq_ofNat_of_zero_le (a := -exponent) (by omega)
      obtain rfl : exponent = -(k : Int) := by omega
      rw [Int.neg_neg, Int.toNat_natCast, cast_shiftLeft, zpow_neg, zpow_natCast]
      field_simp
  obtain ⟨a, b, hround, hb, hquot⟩ := hquotient
  rw [hround]
  apply roundDiv_eq_of_rat hb
  · rw [hquot, le_div_iff₀ hpow]
    exact hlow
  · rw [hquot, div_le_iff₀ hpow]
    exact hhigh
  · rw [hquot, eq_div_iff hpow.ne', div_eq_iff hpow.ne']
    exact htie

/-! ## The first binary digit -/

theorem quotient_bracket
    {num den : Nat} (hnum : num ≠ 0) (hden : den ≠ 0) :
    (2 : ℚ) ^ ((num.log2 : Int) - den.log2 - 1) ≤ num / den ∧
      (num : ℚ) / den < (2 : ℚ) ^ ((num.log2 : Int) - den.log2 + 1) := by
  have hden' : (0 : ℚ) < den := by exact_mod_cast Nat.pos_of_ne_zero hden
  have hnum_ge : (2 : ℚ) ^ num.log2 ≤ num := by exact_mod_cast Nat.log2_self_le hnum
  have hnum_lt : (num : ℚ) < 2 ^ (num.log2 + 1) := by exact_mod_cast Nat.lt_log2_self
  have hden_ge : (2 : ℚ) ^ den.log2 ≤ den := by exact_mod_cast Nat.log2_self_le hden
  have hden_lt : (den : ℚ) < 2 ^ (den.log2 + 1) := by exact_mod_cast Nat.lt_log2_self
  constructor
  · rw [le_div_iff₀ hden']
    calc (2 : ℚ) ^ ((num.log2 : Int) - den.log2 - 1) * den
        ≤ (2 : ℚ) ^ ((num.log2 : Int) - den.log2 - 1) * 2 ^ (den.log2 + 1) := by gcongr
      _ = (2 : ℚ) ^ num.log2 := by
          rw [← zpow_natCast, ← zpow_natCast, ← zpow_add₀ two_ne_zero]
          congr 1
          push_cast
          ring
      _ ≤ num := hnum_ge
  · rw [div_lt_iff₀ hden']
    calc (num : ℚ) < 2 ^ (num.log2 + 1) := hnum_lt
      _ = (2 : ℚ) ^ ((num.log2 : Int) - den.log2 + 1) * 2 ^ den.log2 := by
          rw [← zpow_natCast, ← zpow_natCast, ← zpow_add₀ two_ne_zero]
          congr 1
          push_cast
          ring
      _ ≤ (2 : ℚ) ^ ((num.log2 : Int) - den.log2 + 1) * den := by gcongr

theorem leadingBit_eq
    {num den : Nat} (hden : 0 < den) :
    leadingBit num den =
      if (num : ℚ) / den < (2 : ℚ) ^ ((num.log2 : Int) - den.log2) then
        (num.log2 : Int) - den.log2 - 1
      else (num.log2 : Int) - den.log2 := by
  have hden' : (0 : ℚ) < den := by exact_mod_cast hden
  unfold leadingBit
  dsimp only
  generalize (num.log2 : Int) - den.log2 = low
  split
  next hnonneg =>
    obtain ⟨k, rfl⟩ := Int.eq_ofNat_of_zero_le hnonneg
    refine if_congr ?_ rfl rfl
    rw [Int.toNat_natCast, zpow_natCast, div_lt_iff₀ hden', ← Nat.cast_lt (α := ℚ),
      cast_shiftLeft, mul_comm]
  next hneg =>
    obtain ⟨k, hk⟩ := Int.eq_ofNat_of_zero_le (a := -low) (by omega)
    obtain rfl : low = -(k : Int) := by omega
    refine if_congr ?_ rfl rfl
    rw [Int.neg_neg, Int.toNat_natCast, zpow_neg, zpow_natCast, div_lt_iff₀ hden',
      ← Nat.cast_lt (α := ℚ), cast_shiftLeft, ← div_eq_inv_mul, lt_div_iff₀ (by positivity)]

/-- A quotient lies between two powers of two. -/
theorem leadingBit_spec
    {num den : Nat} (hnum : 0 < num) (hden : 0 < den) :
    (2 : ℚ) ^ leadingBit num den ≤ num / den ∧
      (num : ℚ) / den < (2 : ℚ) ^ (leadingBit num den + 1) := by
  obtain ⟨hge, hlt⟩ := quotient_bracket hnum.ne' hden.ne'
  rw [leadingBit_eq hden]
  split
  next hbelow => exact ⟨hge, by rw [sub_add_cancel]; exact hbelow⟩
  next habove => exact ⟨not_lt.mp habove, hlt⟩

/-! ## The interval of a double -/

namespace Binary

/-- The number that a significand and an exponent stand for. -/
def value (b : Binary) : ℚ :=
  b.significand * (2 : ℚ) ^ b.exponent

/-- The neighbour below a power of two is only half as far away as the one
above, unless the exponent is the least one. -/
def IsNarrow (b : Binary) : Prop :=
  b.significand = 2 ^ 52 ∧ minExponent < b.exponent

instance (b : Binary) : Decidable b.IsNarrow :=
  inferInstanceAs (Decidable (_ ∧ _))

/-- The lower end of the interval in units of the last place. -/
def lower (b : Binary) : ℚ :=
  b.significand - if b.IsNarrow then 1 / 4 else 1 / 2

/-- The upper end of the interval in units of the last place. -/
def upper (b : Binary) : ℚ :=
  b.significand + 1 / 2

/-- A rational rounds to a double. -/
structure Covers (b : Binary) (v : ℚ) : Prop where
  lower_le : b.lower * (2 : ℚ) ^ b.exponent ≤ v
  le_upper : v ≤ b.upper * (2 : ℚ) ^ b.exponent
  even_of_end : b.lower * (2 : ℚ) ^ b.exponent = v ∨ v = b.upper * (2 : ℚ) ^ b.exponent →
    b.significand % 2 = 0

theorem sub_half_le_lower (b : Binary) : b.significand - 1 / 2 ≤ b.lower := by
  unfold lower
  split <;> linarith

end Binary

theorem pow_add_exponent (k : Nat) (exponent : Int) :
    (2 : ℚ) ^ k * (2 : ℚ) ^ exponent = (2 : ℚ) ^ ((k : Int) + exponent) := by
  rw [zpow_add₀ two_ne_zero, zpow_natCast]

theorem lt_of_two_zpow_lt {i j : Int} (h : (2 : ℚ) ^ i < (2 : ℚ) ^ j) : i < j :=
  (zpow_lt_zpow_iff_right₀ one_lt_two).mp h

theorem Binary.IsNormalized.upper_lt {b : Binary} (hb : b.IsNormalized) : b.upper < 2 ^ 53 := by
  have hm : (b.significand : ℚ) + 1 ≤ 2 ^ 53 := by exact_mod_cast hb.significand_lt
  unfold Binary.upper
  linarith

/-- Only the interval of a power of two reaches below the least full
significand. -/
theorem Binary.IsNormalized.significand_eq_of_lower_lt
    {b : Binary} (hb : b.IsNormalized) (hleast : b.exponent ≠ minExponent)
    (hlower : b.lower < 2 ^ 52) :
    b.significand = 2 ^ 52 := by
  have hfull : 2 ^ 52 ≤ b.significand := hb.full.resolve_left hleast
  have hlt : (b.significand : ℚ) < 2 ^ 52 + 1 := by
    linarith [b.sub_half_le_lower]
  have : b.significand < 2 ^ 52 + 1 := by exact_mod_cast hlt
  omega

theorem leadingBit_sub_le
    {b : Binary} {num den : Nat} (hb : b.IsNormalized)
    (hnum : 0 < num) (hden : 0 < den) (hv : b.Covers ((num : ℚ) / den)) :
    leadingBit num den - 52 ≤ b.exponent := by
  have hpow : (0 : ℚ) < (2 : ℚ) ^ b.exponent := by positivity
  have hupper := hb.upper_lt
  have hlt : (2 : ℚ) ^ leadingBit num den < (2 : ℚ) ^ (((53 : Nat) : Int) + b.exponent) := by
    calc (2 : ℚ) ^ leadingBit num den ≤ num / den := (leadingBit_spec hnum hden).1
      _ ≤ b.upper * (2 : ℚ) ^ b.exponent := hv.le_upper
      _ < 2 ^ 53 * (2 : ℚ) ^ b.exponent := by gcongr
      _ = _ := pow_add_exponent 53 b.exponent
  have := lt_of_two_zpow_lt hlt
  omega

theorem leadingBit_eq_of_narrow
    {b : Binary} {num den : Nat} (hnum : 0 < num) (hden : 0 < den)
    (hv : b.Covers ((num : ℚ) / den)) (hsig : b.significand = 2 ^ 52)
    (hbelow : (num : ℚ) / den < 2 ^ 52 * (2 : ℚ) ^ b.exponent) :
    leadingBit num den = 51 + b.exponent := by
  obtain ⟨hge, hlt⟩ := leadingBit_spec hnum hden
  have hpow : (0 : ℚ) < (2 : ℚ) ^ b.exponent := by positivity
  have hhalf : (2 : ℚ) ^ 51 ≤ b.lower := by
    have h := b.sub_half_le_lower
    rw [hsig] at h
    push_cast at h
    linarith
  have hgt : (2 : ℚ) ^ (((51 : Nat) : Int) + b.exponent) <
      (2 : ℚ) ^ (leadingBit num den + 1) := by
    rw [← pow_add_exponent]
    calc (2 : ℚ) ^ 51 * (2 : ℚ) ^ b.exponent ≤ b.lower * (2 : ℚ) ^ b.exponent := by gcongr
      _ ≤ num / den := hv.lower_le
      _ < _ := hlt
  have hlt' : (2 : ℚ) ^ leadingBit num den < (2 : ℚ) ^ (((52 : Nat) : Int) + b.exponent) := by
    rw [← pow_add_exponent]
    exact lt_of_le_of_lt hge hbelow
  have h51 := lt_of_two_zpow_lt hgt
  have h52 := lt_of_two_zpow_lt hlt'
  omega

/-- The exponent that rounding chooses is the one of the double, or one less
below a power of two. -/
theorem exponent_cases
    {b : Binary} {num den : Nat} (hb : b.IsNormalized)
    (hnum : 0 < num) (hden : 0 < den) (hv : b.Covers ((num : ℚ) / den)) :
    max (leadingBit num den - 52) minExponent = b.exponent ∨
      b.IsNarrow ∧ (num : ℚ) / den < 2 ^ 52 * (2 : ℚ) ^ b.exponent ∧
        max (leadingBit num den - 52) minExponent = b.exponent - 1 := by
  have hmin := hb.exponent_ge
  have hle := leadingBit_sub_le hb hnum hden hv
  by_cases habove : 2 ^ 52 * (2 : ℚ) ^ b.exponent ≤ num / den
  · have hlt : (2 : ℚ) ^ (((52 : Nat) : Int) + b.exponent) <
        (2 : ℚ) ^ (leadingBit num den + 1) := by
      rw [← pow_add_exponent]
      exact lt_of_le_of_lt habove (leadingBit_spec hnum hden).2
    have := lt_of_two_zpow_lt hlt
    exact Or.inl (by omega)
  rw [not_le] at habove
  by_cases hleast : b.exponent = minExponent
  · exact Or.inl (by omega)
  have hlower : b.lower < 2 ^ 52 := by
    have hpow : (0 : ℚ) < (2 : ℚ) ^ b.exponent := by positivity
    by_contra hcon
    have hmul := mul_le_mul_of_nonneg_right (not_lt.mp hcon) hpow.le
    linarith [hv.lower_le]
  have hsig := hb.significand_eq_of_lower_lt hleast hlower
  have hleading := leadingBit_eq_of_narrow hnum hden hv hsig habove
  exact Or.inr ⟨⟨hsig, by omega⟩, habove, by omega⟩

/-- A quotient in the interval of a double is rounded to that double. -/
theorem nearest_eq
    {b : Binary} {num den : Nat} (hb : b.IsNormalized) (hpos : 0 < b.significand)
    (hden : 0 < den) (hv : b.Covers ((num : ℚ) / den)) :
    nearest num den = b.toFloat := by
  have hpow : (0 : ℚ) < (2 : ℚ) ^ b.exponent := by positivity
  have hhalf := b.sub_half_le_lower
  have hnum : 0 < num := by
    have hm : (1 : ℚ) ≤ b.significand := by exact_mod_cast hpos
    have hlow : 0 < b.lower * (2 : ℚ) ^ b.exponent := mul_pos (by linarith) hpow
    have hquot := lt_of_lt_of_le hlow hv.lower_le
    by_contra hzero
    obtain rfl : num = 0 := by omega
    simp at hquot
  unfold nearest
  rw [if_neg hnum.ne']
  dsimp only
  rcases exponent_cases hb hnum hden hv with hexp | ⟨hnarrow, hbelow, hexp⟩
  · have hround : roundScaled num den b.exponent = b.significand := by
      have hmul := mul_le_mul_of_nonneg_right hhalf hpow.le
      refine roundScaled_eq hden (le_trans hmul hv.lower_le) hv.le_upper ?_
      rintro (hend | hend)
      · exact hv.even_of_end (Or.inl (le_antisymm hv.lower_le (by linarith)))
      · exact hv.even_of_end (Or.inr hend)
    have hne : b.significand ≠ 1 <<< 53 := by
      have := hb.significand_lt
      rw [Nat.one_shiftLeft]
      omega
    rw [hexp, hround, if_neg hne]
  · have hhalved : (2 : ℚ) ^ b.exponent = 2 * (2 : ℚ) ^ (b.exponent - 1) := by
      rw [zpow_sub_one₀ two_ne_zero]
      ring
    have hpow' : (0 : ℚ) < (2 : ℚ) ^ (b.exponent - 1) := by positivity
    have hlow : b.lower = 2 ^ 52 - 1 / 4 := by
      unfold Binary.lower
      rw [if_pos hnarrow, hnarrow.1]
      norm_num
    have hround : roundScaled num den (b.exponent - 1) = 2 ^ 53 := by
      have hlower := hv.lower_le
      rw [hlow, hhalved] at hlower
      rw [hhalved] at hbelow
      refine roundScaled_eq hden ?_ ?_ fun _ => rfl
      · push_cast
        linarith
      · push_cast
        linarith
    have hsig : (1 <<< 52 : Nat) = b.significand := by
      rw [hnarrow.1]
      rfl
    rw [hexp, hround, if_pos (Nat.one_shiftLeft 53).symm, hsig, sub_add_cancel]

end TraceCheck.Decimal
