import Mathlib.Algebra.Group.Nat.Defs
import TraceCheck.Text.Hex

/-!
# Hexadecimal numbers are read as they are written

The digits of a number, in either case and with any number of leading zeros, are
read as the number, and those of the code of a character as the character.
-/

namespace TraceCheck.Text

variable (letters : HexCase) {n : Nat}

/-- A character is a hexadecimal digit. -/
def isHexDigit (c : Char) : Bool :=
  (hexValue? c).isSome

theorem hexValue?_hexDigit (h : n < 16) : hexValue? (hexDigit letters n) = some n := by
  have hall : ∀ m < 16, hexValue? (hexDigit .lower m) = some m ∧
      hexValue? (hexDigit .upper m) = some m := by
    decide
  cases letters with
  | lower => exact (hall n h).1
  | upper => exact (hall n h).2

theorem hexNumber?_append_digit (cs : List Char) (c : Char) :
    hexNumber? (cs ++ [c]) = do return (← hexNumber? cs) * 16 + (← hexValue? c) := by
  unfold hexNumber?
  rw [List.foldl_append]
  rfl

theorem hexNumber?_hexFixed (width n : Nat) :
    hexNumber? (hexFixed letters width n) = some (n % 16 ^ width) := by
  induction width generalizing n with
  | zero =>
      rw [Nat.pow_zero, Nat.mod_one]
      rfl
  | succ width ih =>
      have hvalue := hexValue?_hexDigit letters (Nat.mod_lt n (by decide : 0 < 16))
      have hsplit : n / 16 % 16 ^ width * 16 + n % 16 = n % 16 ^ (width + 1) := by
        rw [Nat.pow_succ', Nat.mod_mul]
        omega
      rw [hexFixed, hexNumber?_append_digit, ih, hvalue, ← hsplit]
      rfl

theorem lt_pow_hexWidth (n : Nat) : n < 16 ^ hexWidth n := by
  have hlog : n < 2 ^ (n.log2 + 1) := Nat.lt_log2_self
  have hle : 2 ^ (n.log2 + 1) ≤ 2 ^ (4 * hexWidth n) := by
    refine Nat.pow_le_pow_right (by decide) ?_
    unfold hexWidth
    omega
  rw [show 16 = 2 ^ 4 from rfl, ← Nat.pow_mul]
  exact Nat.lt_of_lt_of_le hlog hle

/-- A number is read from its digits. -/
theorem hexNumber?_hex (least n : Nat) : hexNumber? (hex letters least n) = some n := by
  have hle : 16 ^ hexWidth n ≤ 16 ^ max least (hexWidth n) :=
    Nat.pow_le_pow_right (by decide) (Nat.le_max_right _ _)
  rw [hex, hexNumber?_hexFixed, Nat.mod_eq_of_lt (Nat.lt_of_lt_of_le (lt_pow_hexWidth n) hle)]

theorem length_hexFixed (width n : Nat) : (hexFixed letters width n).length = width := by
  induction width generalizing n with
  | zero => rfl
  | succ width ih => rw [hexFixed, List.length_append, ih, List.length_singleton]

theorem hex_ne_nil (least n : Nat) : hex letters least n ≠ [] := by
  intro hnil
  have hlength := length_hexFixed letters (max least (hexWidth n)) n
  rw [show hexFixed letters (max least (hexWidth n)) n = [] from hnil, List.length_nil] at hlength
  unfold hexWidth at hlength
  omega

theorem hexWidth_le {width : Nat} (hpos : 0 < width) (h : n < 16 ^ width) :
    hexWidth n ≤ width := by
  have hlog : n.log2 < 4 * width := by
    rcases Nat.eq_zero_or_pos n with rfl | hn
    · rw [Nat.log2_zero]
      omega
    · rw [Nat.log2_lt (by omega), Nat.pow_mul]
      exact h
  unfold hexWidth
  omega

/-- A number that fits has as many digits as are asked for. -/
theorem length_hex {least : Nat} (hpos : 0 < least) (h : n < 16 ^ least) :
    (hex letters least n).length = least := by
  rw [hex, length_hexFixed, Nat.max_eq_left (hexWidth_le hpos h)]

theorem isHexDigit_of_mem_hexFixed {width : Nat} {c : Char} (hc : c ∈ hexFixed letters width n) :
    isHexDigit c = true := by
  induction width generalizing n with
  | zero => cases hc
  | succ width ih =>
      rcases List.mem_append.mp hc with hc | hc
      · exact ih hc
      · rw [List.mem_singleton.mp hc, isHexDigit,
          hexValue?_hexDigit letters (Nat.mod_lt n (by decide))]
        rfl

theorem isHexDigit_of_mem_hex {least : Nat} {c : Char} (hc : c ∈ hex letters least n) :
    isHexDigit c = true :=
  isHexDigit_of_mem_hexFixed letters hc

/-- A mark that is no digit is not among the digits of a number. -/
theorem not_mem_of_isHexDigit
    {marks : List Char} (hmarks : (marks.all fun x => !isHexDigit x) = true) {c : Char}
    (hc : isHexDigit c = true) :
    c ∉ marks := by
  intro hmem
  have hfalse := List.all_eq_true.mp hmarks c hmem
  rw [hc] at hfalse
  cases hfalse

/-- The character whose code some hexadecimal digits are. -/
def charOfHex? (digits : List Char) : Option Char :=
  if digits = [] then none
  else (hexNumber? digits).bind fun n => if n.isValidChar then some (Char.ofNat n) else none

theorem charOfHex?_hex (least : Nat) (c : Char) :
    charOfHex? (hex letters least c.toNat) = some c := by
  have hvalid : c.toNat.isValidChar := c.valid
  rw [charOfHex?, if_neg (hex_ne_nil letters least c.toNat), hexNumber?_hex, Option.bind_some,
    if_pos hvalid, Char.ofNat_toNat]

end TraceCheck.Text
