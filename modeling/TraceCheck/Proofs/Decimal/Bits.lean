import Mathlib
import TraceCheck.Decimal.Double

/-!
# The bits of doubles

A double is determined by its sign, its biased exponent and its fraction.  What
a double is (not a number, infinite, zero or another finite number) can be read
off these, and a positive finite double is the one that its significand and
exponent make up.
-/

namespace TraceCheck.Decimal

open Float.Model Float.Model.UnpackedFloat

/-! ## Fields -/

/-- The bits below the exponent. -/
def fraction (x : Float) : Nat :=
  x.toBits.toNat % (1 <<< 52)

/-- The bits of the exponent. -/
def biasedExponent (x : Float) : Nat :=
  (x.toBits.toNat >>> 52) % (1 <<< 11)

theorem toNat_unpackMantissa (b : BitVec Format.binary64.numBits) :
    (unpackMantissa b).toNat = b.toNat % 2 ^ 52 := by
  simp [unpackMantissa, BitVec.extractLsb_toNat]

theorem toNat_unpackExponent (b : BitVec Format.binary64.numBits) :
    (unpackExponent b).toNat = (b.toNat >>> 52) % 2 ^ 11 := by
  simp [unpackExponent, BitVec.extractLsb_toNat]

theorem toNat_unpackSign (b : BitVec Format.binary64.numBits) :
    (unpackSign b).toNat = (b.toNat >>> 63) % 2 := by
  simp [unpackSign, BitVec.extractLsb_toNat]

theorem toNat_packComponents
    (s : Sign) (e : BitVec 11) (m : BitVec 52) :
    (packComponents Format.binary64 s e m).toNat =
      s.toBitVec.toNat * 2 ^ 63 + e.toNat * 2 ^ 52 + m.toNat := by
  have he := e.isLt
  have hm := m.isLt
  unfold packComponents
  rw [BitVec.toNat_append, BitVec.toNat_append, ← Nat.shiftLeft_add_eq_or_of_lt he,
    ← Nat.shiftLeft_add_eq_or_of_lt hm, Nat.shiftLeft_eq, Nat.shiftLeft_eq]
  omega

theorem toNat_signBits (b : BitVec 1) : (Sign.ofBitVec b).toBitVec.toNat = b.toNat := by
  have hb : b = 0#1 ∨ b = 1#1 := by
    have := b.isLt
    rcases Nat.eq_zero_or_pos b.toNat with h | h
    · exact Or.inl (BitVec.eq_of_toNat_eq h)
    · exact Or.inr (BitVec.eq_of_toNat_eq (by change b.toNat = 1; omega))
  rcases hb with rfl | rfl <;> rfl

/-- A bit pattern is what its fields make up. -/
theorem packComponents_fields (b : BitVec Format.binary64.numBits) :
    packComponents Format.binary64 (Sign.ofBitVec (unpackSign b)) (unpackExponent b)
      (unpackMantissa b) = b := by
  apply BitVec.eq_of_toNat_eq
  have hb := b.isLt
  rw [toNat_packComponents, toNat_signBits, toNat_unpackSign]
  have he := toNat_unpackExponent b
  have hm := toNat_unpackMantissa b
  rw [he, hm, Nat.shiftRight_eq_div_pow, Nat.shiftRight_eq_div_pow]
  change b.toNat < 2 ^ 64 at hb
  omega

/-! ## Unpacking -/

/-- The sign of a double. -/
def sign (x : Float) : Sign :=
  Sign.ofBitVec (@unpackSign Format.binary64 x.toBits.toBitVec)

theorem exponent_eq_iff (x : Float) (k : BitVec 11) :
    @unpackExponent Format.binary64 x.toBits.toBitVec = k ↔
      biasedExponent x = k.toNat := by
  rw [← BitVec.toNat_inj, toNat_unpackExponent]
  rfl

theorem mantissa_eq_zero_iff (x : Float) :
    @unpackMantissa Format.binary64 x.toBits.toBitVec = 0#52 ↔ fraction x = 0 := by
  rw [← BitVec.toNat_inj, toNat_unpackMantissa]
  rfl

theorem unpack_of_max {x : Float} (h : biasedExponent x = 2047) :
    x.toModel.unpack = if fraction x = 0 then .infinity (sign x) else .notANumber := by
  have hexp := (exponent_eq_iff x (-1#11)).mpr h
  change UnpackedFloat.unpack Format.binary64 x.toBits.toBitVec = _
  unfold UnpackedFloat.unpack
  dsimp only
  rw [if_pos hexp]
  by_cases hfrac : fraction x = 0
  · rw [if_pos hfrac]
    exact if_pos ((mantissa_eq_zero_iff x).mpr hfrac)
  · rw [if_neg hfrac]
    exact if_neg (mt (mantissa_eq_zero_iff x).mp hfrac)

theorem unpack_of_zero
    {x : Float} (hexp : biasedExponent x = 0) (hfrac : fraction x = 0) :
    x.toModel.unpack = .zero (sign x) := by
  have hmax : @unpackExponent Format.binary64 x.toBits.toBitVec ≠ -1#11 := by
    rw [Ne, exponent_eq_iff, hexp]
    decide
  have hzero := (exponent_eq_iff x 0#11).mpr hexp
  have hmant := (mantissa_eq_zero_iff x).mpr hfrac
  change UnpackedFloat.unpack Format.binary64 x.toBits.toBitVec = _
  unfold UnpackedFloat.unpack
  dsimp only
  rw [if_neg hmax, if_pos hzero, dif_pos hmant]
  rfl

theorem toNat_one_append (m : BitVec 52) : (1#1 ++ m).toNat = 2 ^ 52 + m.toNat := by
  rw [BitVec.toNat_append, ← Nat.shiftLeft_add_eq_or_of_lt m.isLt]
  rfl

/-- A double that is neither infinite nor a zero has a positive significand. -/
theorem unpack_of_finite
    {x : Float} (hmax : biasedExponent x ≠ 2047)
    (hne : biasedExponent x ≠ 0 ∨ fraction x ≠ 0) :
    ∃ m e hm, x.toModel.unpack = .finite (sign x) m e hm := by
  have hmax' : @unpackExponent Format.binary64 x.toBits.toBitVec ≠ -1#11 := by
    rw [Ne, exponent_eq_iff]
    exact hmax
  change ∃ m e hm, UnpackedFloat.unpack Format.binary64 x.toBits.toBitVec = _
  unfold UnpackedFloat.unpack
  dsimp only
  rw [if_neg hmax']
  split
  next hzero =>
    have hexp := (exponent_eq_iff x 0#11).mp hzero
    have hmant : @unpackMantissa Format.binary64 x.toBits.toBitVec ≠ 0#52 := by
      rw [Ne, mantissa_eq_zero_iff]
      exact hne.resolve_left fun h => h hexp
    rw [dif_neg hmant]
    exact ⟨_, _, Nat.pos_of_ne_zero fun h => hmant (BitVec.eq_of_toNat_eq h), rfl⟩
  next =>
    have hpos : 0 < (1#1 ++ @unpackMantissa Format.binary64 x.toBits.toBitVec).toNat := by
      rw [toNat_one_append]
      omega
    exact ⟨_, _, hpos, rfl⟩

theorem isNaN_iff (x : Float) :
    x.isNaN = true ↔ biasedExponent x = 2047 ∧ fraction x ≠ 0 := by
  change x.toModel.unpack.isNaN = true ↔ _
  by_cases hmax : biasedExponent x = 2047
  · rw [unpack_of_max hmax]
    by_cases hfrac : fraction x = 0
    · simp [hfrac, UnpackedFloat.isNaN]
    · simp [hfrac, hmax, UnpackedFloat.isNaN]
  · by_cases hne : biasedExponent x = 0 ∧ fraction x = 0
    · rw [unpack_of_zero hne.1 hne.2]
      simp [hmax, UnpackedFloat.isNaN]
    · obtain ⟨m, e, hm, hunpack⟩ := unpack_of_finite hmax (by omega)
      rw [hunpack]
      simp [hmax, UnpackedFloat.isNaN]

theorem isInf_iff (x : Float) :
    x.isInf = true ↔ biasedExponent x = 2047 ∧ fraction x = 0 := by
  change x.toModel.unpack.isInf = true ↔ _
  by_cases hmax : biasedExponent x = 2047
  · rw [unpack_of_max hmax]
    by_cases hfrac : fraction x = 0
    · simp [hfrac, hmax, UnpackedFloat.isInf]
    · simp [hfrac, UnpackedFloat.isInf]
  · by_cases hne : biasedExponent x = 0 ∧ fraction x = 0
    · rw [unpack_of_zero hne.1 hne.2]
      simp [hmax, UnpackedFloat.isInf]
    · obtain ⟨m, e, hm, hunpack⟩ := unpack_of_finite hmax (by omega)
      rw [hunpack]
      simp [hmax, UnpackedFloat.isInf]

theorem unpack_zero : (0 : Float).toModel.unpack = .zero .positive :=
  rfl

theorem beq_zero_iff (x : Float) :
    (x == 0) = true ↔ biasedExponent x = 0 ∧ fraction x = 0 := by
  change (x.toModel.unpack.compare (0 : Float).toModel.unpack == some .eq) = true ↔ _
  rw [unpack_zero]
  by_cases hmax : biasedExponent x = 2047
  · rw [unpack_of_max hmax]
    by_cases hfrac : fraction x = 0
    · cases hs : sign x <;> simp [hfrac, hmax, UnpackedFloat.compare]
    · simp [hfrac, UnpackedFloat.compare]
  · by_cases hne : biasedExponent x = 0 ∧ fraction x = 0
    · rw [unpack_of_zero hne.1 hne.2]
      simp [hne, UnpackedFloat.compare]
    · obtain ⟨m, e, hm, hunpack⟩ := unpack_of_finite hmax (by omega)
      rw [hunpack]
      cases hs : sign x <;> simp [hne, UnpackedFloat.compare]

theorem compare_self_of_isNaN_eq_false
    {u : UnpackedFloat} (hu : u.isNaN = false) : u.compare u = some .eq := by
  cases u with
  | notANumber => cases hu
  | infinity s => cases s <;> rfl
  | zero s => rfl
  | finite s m e hm => cases s <;> simp [UnpackedFloat.compare]

/-- Doubles that are numbers are equal to themselves. -/
theorem beq_self {x : Float} (hx : x.isNaN = false) : (x == x) = true := by
  change (x.toModel.unpack.compare x.toModel.unpack == some .eq) = true
  rw [compare_self_of_isNaN_eq_false hx]
  rfl

/-! ## Packing -/

theorem log2_significand (b : BitVec Format.binary64.numBits) :
    (2 ^ 52 + (unpackMantissa b).toNat).log2 = 52 := by
  have hlt : (unpackMantissa b).toNat < 2 ^ 52 := (unpackMantissa b).isLt
  have hne : 2 ^ 52 + (unpackMantissa b).toNat ≠ 0 := by omega
  have hle := (Nat.le_log2 hne (k := 52)).mpr (by omega)
  have hlt' := (Nat.log2_lt hne (k := 53)).mpr (by omega)
  omega

theorem ofNat_significand (b : BitVec Format.binary64.numBits) :
    BitVec.ofNat 52 (1#1 ++ unpackMantissa b).toNat = unpackMantissa b := by
  have hlt : (unpackMantissa b).toNat < 2 ^ 52 := (unpackMantissa b).isLt
  apply BitVec.eq_of_toNat_eq
  rw [BitVec.toNat_ofNat, toNat_one_append]
  omega

theorem toNat_unpackExponent_lt
    {b : BitVec Format.binary64.numBits} (hmax : unpackExponent b ≠ -1#11) :
    (unpackExponent b).toNat < 2047 := by
  have hle : (unpackExponent b).toNat < 2 ^ 11 := (unpackExponent b).isLt
  have hne : (unpackExponent b).toNat ≠ 2047 := by
    intro h
    exact hmax (BitVec.eq_of_toNat_eq h)
  omega

/-- Packing undoes unpacking, unless all bits of the exponent are set. -/
theorem pack_unpack
    {b : BitVec Format.binary64.numBits} (hmax : unpackExponent b ≠ -1#11) :
    UnpackedFloat.pack Format.binary64 (UnpackedFloat.unpack Format.binary64 b) = b := by
  have hfields := packComponents_fields b
  unfold UnpackedFloat.unpack
  dsimp only
  rw [if_neg hmax]
  split
  next hzero =>
    split
    next hmant =>
      rw [hzero, hmant] at hfields
      exact hfields
    next hmant =>
      have hlt : (unpackMantissa b).toNat < 2 ^ 52 := (unpackMantissa b).isLt
      have hlog : (unpackMantissa b).toNat.log2 < 52 := by
        refine (Nat.log2_lt fun h => hmant (BitVec.eq_of_toNat_eq h)).mpr hlt
      rw [hzero] at hfields
      unfold UnpackedFloat.pack
      dsimp only
      rw [if_neg (by rw [hzero]; decide), if_neg]
      · rw [BitVec.ofNat_toNat, BitVec.setWidth_eq]
        exact hfields
      · change (unpackMantissa b).toNat.log2 + 1 ≠ 53
        omega
  next hzero =>
    have hexp := toNat_unpackExponent_lt hmax
    have hbiased :
        ((unpackExponent b).toNat - ((1023 : Int) + 52) + 1023 + 52).toNat =
          (unpackExponent b).toNat := by
      omega
    have hleft : BitVec.ofNat 11 (unpackExponent b).toNat = unpackExponent b := by
      rw [BitVec.ofNat_toNat, BitVec.setWidth_eq]
    change (if 2 ^ 11 ≤
        ((unpackExponent b).toNat - ((1023 : Int) + 52) + 1023 + 52).toNat + 1 then _
      else if (1#1 ++ unpackMantissa b).toNat.log2 + 1 = 53 then
        packComponents Format.binary64 _ (BitVec.ofNat 11
          ((unpackExponent b).toNat - ((1023 : Int) + 52) + 1023 + 52).toNat)
          (BitVec.ofNat 52 (1#1 ++ unpackMantissa b).toNat)
      else _) = b
    rw [hbiased, if_neg (by omega), if_pos (by rw [toNat_one_append, log2_significand]),
      ofNat_significand, hleft]
    exact hfields

theorem toBits_ofBits
    {u : UInt64} (hmax : (u.toNat >>> 52) % (1 <<< 11) ≠ 2047) :
    (Float.ofBits u).toBits = u := by
  have hne : @unpackExponent Format.binary64 u.toBitVec ≠ -1#11 := by
    rw [Ne, ← BitVec.toNat_inj, toNat_unpackExponent]
    exact hmax
  apply UInt64.toBitVec_inj.mp
  exact pack_unpack hne

theorem ext_toBits {x y : Float} (h : x.toBits = y.toBits) : x = y := by
  obtain ⟨m⟩ := x
  obtain ⟨n⟩ := y
  obtain ⟨u, hu⟩ := m
  obtain ⟨v, hv⟩ := n
  obtain rfl : u = v := h
  rfl

/-- A finite double is the double of its bits. -/
theorem ofBits_toBits {x : Float} (hmax : biasedExponent x ≠ 2047) :
    Float.ofBits x.toBits = x :=
  ext_toBits (toBits_ofBits hmax)

/-! ## Significand and exponent -/

/-- A significand and an exponent as doubles have them: the significand fills
its bits unless the exponent is the least one. -/
structure Binary.IsNormalized (b : Binary) : Prop where
  significand_lt : b.significand < 2 ^ 53
  exponent_ge : minExponent ≤ b.exponent
  exponent_le : b.exponent ≤ 971
  full : b.exponent = minExponent ∨ 2 ^ 52 ≤ b.significand

/-- A finite double without a minus sign. -/
structure IsPlain (x : Float) : Prop where
  number : x.isNaN = false
  bounded : x.isInf = false
  positive : isNegative x = false

theorem IsPlain.biasedExponent_ne {x : Float} (hx : IsPlain x) : biasedExponent x ≠ 2047 := by
  intro hmax
  by_cases hfrac : fraction x = 0
  · have hinf := (isInf_iff x).mpr ⟨hmax, hfrac⟩
    rw [hx.bounded] at hinf
    cases hinf
  · have hnan := (isNaN_iff x).mpr ⟨hmax, hfrac⟩
    rw [hx.number] at hnan
    cases hnan

theorem biasedExponent_lt (x : Float) : biasedExponent x < 2 ^ 11 :=
  Nat.mod_lt _ (by decide)

theorem fraction_lt (x : Float) : fraction x < 2 ^ 52 :=
  Nat.mod_lt _ (by decide)

/-- Without a sign bit the bits are the exponent and the fraction. -/
theorem IsPlain.toNat_toBits {x : Float} (hx : IsPlain x) :
    x.toBits.toNat = biasedExponent x * 2 ^ 52 + fraction x := by
  have hsign : x.toBits.toNat >>> 63 ≠ 1 := by
    have hneg := hx.positive
    unfold isNegative at hneg
    simpa using hneg
  have hlt : x.toBits.toNat < 2 ^ 64 := x.toBits.toBitVec.isLt
  unfold biasedExponent fraction
  rw [Nat.shiftRight_eq_div_pow] at hsign ⊢
  simp only [Nat.one_shiftLeft]
  omega

theorem ofFloat_eq (x : Float) :
    Binary.ofFloat x =
      if biasedExponent x = 0 then ⟨fraction x, minExponent⟩
      else ⟨2 ^ 52 + fraction x, minExponent + ((biasedExponent x : Int) - 1)⟩ :=
  rfl

theorem isNormalized_ofFloat {x : Float} (hx : IsPlain x) :
    (Binary.ofFloat x).IsNormalized := by
  have hmax := hx.biasedExponent_ne
  have hlt := biasedExponent_lt x
  have hfrac := fraction_lt x
  rw [ofFloat_eq]
  split
  next hzero => exact ⟨by dsimp only; omega, Int.le_refl _, by dsimp only [minExponent]; omega, Or.inl rfl⟩
  next hzero =>
    refine ⟨by dsimp only; omega, ?_, ?_, Or.inr (by dsimp only; omega)⟩
    · dsimp only
      omega
    · dsimp only [minExponent]
      omega

/-- A plain double is the one with its significand and its exponent. -/
theorem toFloat_ofFloat {x : Float} (hx : IsPlain x) :
    (Binary.ofFloat x).toFloat = x := by
  have hmax := hx.biasedExponent_ne
  have hlt := biasedExponent_lt x
  have hfrac := fraction_lt x
  have hbits : UInt64.ofNat (biasedExponent x <<< 52 + fraction x) = x.toBits := by
    rw [Nat.shiftLeft_eq, ← hx.toNat_toBits]
    exact UInt64.ofNat_toNat
  have hbiased :
      (if (Binary.ofFloat x).significand < 1 <<< 52 then 0
        else ((Binary.ofFloat x).exponent - minExponent + 1).toNat) = biasedExponent x := by
    rw [ofFloat_eq]
    split
    next hzero => exact (if_pos hfrac).trans hzero.symm
    next hzero =>
      rw [if_neg (by simp only [Nat.one_shiftLeft]; omega)]
      dsimp only
      omega
  have hfraction : (Binary.ofFloat x).significand % (1 <<< 52) = fraction x := by
    rw [ofFloat_eq, Nat.one_shiftLeft]
    split
    next => exact Nat.mod_eq_of_lt hfrac
    next => dsimp only; omega
  unfold Binary.toFloat
  dsimp only
  rw [hbiased, hfraction, if_neg (by omega), hbits, ofBits_toBits hmax]

end TraceCheck.Decimal
