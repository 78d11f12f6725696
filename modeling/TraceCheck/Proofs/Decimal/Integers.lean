import TraceCheck.Proofs.Decimal.Unsigned

/-!
# Integers of 64 bits as doubles

The double nearest to an integer of 64 bits, with or without a sign, is finite.
-/

namespace TraceCheck.Decimal

open Float.Model Float.Model.UnpackedFloat

/-! ## Signs -/

theorem isFinite_iff_biasedExponent (x : Float) :
    x.isFinite = true ↔ biasedExponent x ≠ 2047 := by
  rw [isFinite_iff, ← Bool.not_eq_true, ← Bool.not_eq_true, isNaN_iff, isInf_iff]
  tauto

theorem unpackExponent_packComponents (s : Sign) (e : BitVec 11) (m : BitVec 52) :
    unpackExponent (packComponents Format.binary64 s e m) = e := by
  apply BitVec.eq_of_toNat_eq
  have he := e.isLt
  have hm := m.isLt
  rw [toNat_unpackExponent, toNat_packComponents, Nat.shiftRight_eq_div_pow]
  omega

/-- A sign is packed beside the exponent. -/
theorem unpackExponent_pack_neg {u : UnpackedFloat} (hu : u.isFinite = true) :
    unpackExponent (UnpackedFloat.pack Format.binary64 u.neg) =
      unpackExponent (UnpackedFloat.pack Format.binary64 u) := by
  cases u with
  | notANumber => cases hu
  | infinity s => cases hu
  | zero s =>
      simp only [UnpackedFloat.neg, UnpackedFloat.pack, packedZero, unpackExponent_packComponents]
  | finite s m e hm =>
      simp only [UnpackedFloat.neg, UnpackedFloat.pack]
      split
      · simp only [packedInfinity, unpackExponent_packComponents]
      split
      · rw [unpackExponent_packComponents, unpackExponent_packComponents]
      · rw [unpackExponent_packComponents, unpackExponent_packComponents]

theorem isFinite_neg {x : Float} (hx : x.isFinite = true) : (-x).isFinite = true := by
  have hmax := (isFinite_iff_biasedExponent x).mp hx
  rw [isFinite_iff_biasedExponent]
  have hne : @unpackExponent Format.binary64 x.toBits.toBitVec ≠ -1#11 := by
    rw [Ne, exponent_eq_iff]
    exact hmax
  have hexp := unpackExponent_pack_neg (u := x.toModel.unpack) hx
  have hpack : UnpackedFloat.pack Format.binary64 x.toModel.unpack = x.toBits.toBitVec :=
    pack_unpack hne
  rw [hpack] at hexp
  have hneg := (exponent_eq_iff (-x) (-1#11)).not
  exact hneg.mp fun h => hne (hexp ▸ h)

/-! ## Rounding -/

theorem isPlain_nearest {n : Nat} (hn : n < 2 ^ 64) : IsPlain (nearest n 1) := by
  have hlead : leadingBit n 1 ≤ 64 := by
    have hlog : n.log2 ≤ 64 := by
      rcases Nat.eq_zero_or_pos n with rfl | hpos
      · decide
      · exact Nat.le_of_lt ((Nat.log2_lt hpos.ne').mpr hn)
    unfold leadingBit
    rw [show Nat.log2 1 = 0 from rfl]
    dsimp only
    split <;> split <;> omega
  unfold nearest
  split
  · exact isPlain_of_bits (by decide) (by decide)
  · dsimp only
    unfold minExponent
    split
    · exact Binary.isPlain_toFloat (by dsimp only; omega)
    · exact Binary.isPlain_toFloat (by dsimp only; omega)

/-- The double nearest to an integer of 64 bits is finite. -/
theorem isFinite_ofInt {i : Int} (hi : i.natAbs < 2 ^ 64) : (ofInt i).isFinite = true := by
  unfold ofInt
  dsimp only
  split
  · exact isFinite_neg ((isPlain_nearest hi).isFinite)
  · exact (isPlain_nearest hi).isFinite

end TraceCheck.Decimal
