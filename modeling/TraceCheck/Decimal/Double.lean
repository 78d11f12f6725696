/-!
# Doubles as exact numbers

A finite double is a significand times a power of two. `Binary.ofFloat` takes
a double apart, and `nearest` finds the double closest to a quotient of two
natural numbers, a tie going to the even significand.
-/

namespace TraceCheck.Decimal

/-- The absolute value of a finite double: `significand * 2 ^ exponent`. -/
structure Binary where
  significand : Nat
  exponent : Int
  deriving DecidableEq, Repr

/-- The least exponent of a double's last place. -/
def minExponent : Int := -1074

/-- The magnitude of a finite double. -/
def Binary.ofFloat (x : Float) : Binary :=
  let bits := x.toBits.toNat
  let fraction : Nat := bits % (1 <<< 52)
  let biased : Nat := (bits >>> 52) % (1 <<< 11)
  if biased = 0 then ⟨fraction, minExponent⟩
  else ⟨(1 <<< 52) + fraction, minExponent + ((biased : Int) - 1)⟩

/-- Whether the sign bit is set, for zeros and NaNs too. -/
def isNegative (x : Float) : Bool :=
  x.toBits.toNat >>> 63 == 1

/-- The double with this significand, below `2 ^ 53`, and exponent; infinity
when the exponent is too large. -/
def Binary.toFloat (b : Binary) : Float :=
  let biased := if b.significand < 1 <<< 52 then 0 else (b.exponent - minExponent + 1).toNat
  if 2047 ≤ biased then Float.ofBits (UInt64.ofNat (2047 <<< 52))
  else Float.ofBits (UInt64.ofNat ((biased <<< 52) + b.significand % (1 <<< 52)))

/-- A quotient rounded to the nearest natural number, a tie to the even one. -/
def roundDiv (num den : Nat) : Nat :=
  let q := num / den
  let twice := 2 * (num % den)
  if twice < den then q
  else if den < twice then q + 1
  else if q % 2 = 0 then q else q + 1

/-- The position of the first binary digit of `num / den`: the quotient is at
least two to this power and less than twice that. -/
def leadingBit (num den : Nat) : Int :=
  -- the quotient lies strictly between `2 ^ (low - 1)` and `2 ^ (low + 1)`
  let low : Int := (num.log2 : Int) - den.log2
  if 0 ≤ low then (if num < den <<< low.toNat then low - 1 else low)
  else (if num <<< (-low).toNat < den then low - 1 else low)

/-- `num / den` in units of `2 ^ exponent`, rounded. -/
def roundScaled (num den : Nat) (exponent : Int) : Nat :=
  if 0 ≤ exponent then roundDiv num (den <<< exponent.toNat)
  else roundDiv (num <<< (-exponent).toNat) den

/-- The double nearest to `num / den`, a tie going to the even significand. -/
def nearest (num den : Nat) : Float :=
  if num = 0 then Float.ofBits 0
  else
    let exponent := max (leadingBit num den - 52) minExponent
    let m := roundScaled num den exponent
    if m = 1 <<< 53 then Binary.toFloat ⟨1 <<< 52, exponent + 1⟩
    else Binary.toFloat ⟨m, exponent⟩

/-- A power of ten. -/
def powerOfTen (k : Nat) : Nat := Nat.pow 10 k

/-- The double nearest to `digits * 10 ^ exponent`. Exponents far outside the
range of doubles are settled by the number of digits alone. -/
def ofScientific (digits : Nat) (exponent : Int) : Float :=
  if digits = 0 then Float.ofBits 0
  else
    let size : Int := exponent + (Nat.toDigits 10 digits).length
    if 400 < size then Float.ofBits (UInt64.ofNat (2047 <<< 52))
    else if size < -400 then Float.ofBits 0
    else if 0 ≤ exponent then nearest (digits * powerOfTen exponent.toNat) 1
    else nearest digits (powerOfTen (-exponent).toNat)

/-- The double nearest to an integer. -/
def ofInt (i : Int) : Float :=
  let x := nearest i.natAbs 1
  if i < 0 then -x else x

end TraceCheck.Decimal
