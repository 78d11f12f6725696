import TraceCheck.Proofs.Decimal.Bits
import TraceCheck.Proofs.Decimal.Numeral

/-!
# Numerals have no sign

A numeral is read as a finite double without a minus sign, unless its value is
so large that the nearest double is infinite.
-/

namespace TraceCheck.Decimal

/-! ## Finite doubles -/

theorem isFinite_iff (x : Float) : x.isFinite = true ↔ x.isNaN = false ∧ x.isInf = false := by
  change x.toModel.unpack.isFinite = true ↔
    x.toModel.unpack.isNaN = false ∧ x.toModel.unpack.isInf = false
  cases x.toModel.unpack <;>
    simp [Float.Model.UnpackedFloat.isFinite, Float.Model.UnpackedFloat.isNaN,
      Float.Model.UnpackedFloat.isInf]

theorem IsPlain.isFinite {x : Float} (hx : IsPlain x) : x.isFinite = true :=
  (isFinite_iff x).mpr ⟨hx.number, hx.bounded⟩

/-- A double is plain when its exponent is not the greatest one and its bits are
below that of the sign. -/
theorem isPlain_of_bits
    {x : Float} (hexp : biasedExponent x ≠ 2047) (hsign : x.toBits.toNat < 2 ^ 63) :
    IsPlain x where
  number := by
    by_contra h
    exact hexp ((isNaN_iff x).mp (by simpa using h)).1
  bounded := by
    by_contra h
    exact hexp ((isInf_iff x).mp (by simpa using h)).1
  positive := by
    have hzero : x.toBits.toNat >>> 63 = 0 := by
      rw [Nat.shiftRight_eq_div_pow]
      omega
    rw [isNegative, hzero]
    rfl

/-! ## Plain or infinite -/

/-- A double that is plain or infinite. -/
def IsUnsigned (x : Float) : Prop :=
  IsPlain x ∨ x.isInf = true

theorem IsUnsigned.isPlain_iff {x : Float} (hx : IsUnsigned x) :
    IsPlain x ↔ x.isFinite = true := by
  refine ⟨IsPlain.isFinite, fun hfinite => ?_⟩
  rcases hx with hx | hinf
  · exact hx
  · have hbounded := ((isFinite_iff x).mp hfinite).2
    rw [hinf] at hbounded
    cases hbounded

theorem IsUnsigned.isNaN_eq_false {x : Float} (hx : IsUnsigned x) : x.isNaN = false := by
  rcases hx with hx | hinf
  · exact hx.number
  · by_contra h
    have hnan := (isNaN_iff x).mp (by simpa using h)
    exact hnan.2 ((isInf_iff x).mp hinf).2

theorem isUnsigned_zero : IsUnsigned (Float.ofBits 0) :=
  Or.inl (isPlain_of_bits (by decide) (by decide))

theorem isUnsigned_infinity : IsUnsigned (Float.ofBits (UInt64.ofNat (2047 <<< 52))) :=
  Or.inr (by decide)

/-- The double with an exponent that is not the greatest one. -/
theorem isPlain_ofBits
    {biased fraction : Nat} (hbiased : ¬2047 ≤ biased) (hfraction : fraction < 2 ^ 52) :
    IsPlain (Float.ofBits (UInt64.ofNat (biased <<< 52 + fraction))) := by
  have hbits : (UInt64.ofNat (biased <<< 52 + fraction)).toNat =
      biased * 2 ^ 52 + fraction := by
    rw [UInt64.toNat_ofNat', Nat.shiftLeft_eq]
    omega
  have hexp : ((UInt64.ofNat (biased <<< 52 + fraction)).toNat >>> 52) % (1 <<< 11) ≠ 2047 := by
    rw [hbits, Nat.shiftRight_eq_div_pow, Nat.one_shiftLeft]
    omega
  have hround := toBits_ofBits hexp
  apply isPlain_of_bits
  · unfold biasedExponent
    rw [hround]
    exact hexp
  · rw [hround, hbits]
    omega

theorem Binary.isUnsigned_toFloat (b : Binary) : IsUnsigned b.toFloat := by
  unfold Binary.toFloat
  dsimp only
  generalize (if b.significand < 1 <<< 52 then 0
    else (b.exponent - minExponent + 1).toNat) = biased
  split
  · exact isUnsigned_infinity
  · rename_i hbiased
    exact Or.inl (isPlain_ofBits hbiased (Nat.mod_lt _ (by decide)))

theorem Binary.isPlain_toFloat {b : Binary} (hb : b.exponent < 972) : IsPlain b.toFloat := by
  have hbiased : ¬2047 ≤ (if b.significand < 1 <<< 52 then 0
      else (b.exponent - minExponent + 1).toNat) := by
    unfold minExponent
    split <;> omega
  unfold Binary.toFloat
  dsimp only
  rw [if_neg hbiased]
  exact isPlain_ofBits hbiased (Nat.mod_lt _ (by decide))

theorem isUnsigned_nearest (num den : Nat) : IsUnsigned (nearest num den) := by
  unfold nearest
  split
  · exact isUnsigned_zero
  · dsimp only
    split <;> exact Binary.isUnsigned_toFloat _

theorem isUnsigned_ofScientific (digits : Nat) (exponent : Int) :
    IsUnsigned (ofScientific digits exponent) := by
  unfold ofScientific
  split
  · exact isUnsigned_zero
  dsimp only
  split
  · exact isUnsigned_infinity
  split
  · exact isUnsigned_zero
  split <;> exact isUnsigned_nearest _ _

theorem Numeral.isUnsigned_of_readMagnitude?
    {cs : List Char} {x : Float} (h : Numeral cs) (hx : readMagnitude? cs = some x) :
    IsUnsigned x := by
  cases h with
  | whole _ hne hds =>
      rw [readMagnitude?_whole hne hds] at hx
      injection hx with hx
      subst hx
      exact isUnsigned_ofScientific _ _
  | fraction ds fs hds hfs hdne hfne =>
      rw [readMagnitude?_fraction hdne hds hfs] at hx
      injection hx with hx
      subst hx
      exact isUnsigned_ofScientific _ _

/-- A numeral is read as a double that is plain or infinite. -/
theorem Numeral.isUnsigned
    {s : String} {x : Float} (h : Numeral s.toList) (hx : readDouble? s = some x) :
    IsUnsigned x := by
  obtain ⟨c, rest, hcs, hc⟩ := h.exists_cons
  have hs : s = String.ofList (c :: rest) := by rw [← hcs, String.ofList_toList]
  rw [hs, readDouble?_of_digit hc, ← hcs] at hx
  exact h.isUnsigned_of_readMagnitude? hx

end TraceCheck.Decimal
