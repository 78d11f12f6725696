/-!
# Hexadecimal numbers

Fixed and free width, in either case of the letters.
-/

namespace TraceCheck.Text

/-- Whether hexadecimal letters are written `a` to `f` or `A` to `F`. -/
inductive HexCase where
  | lower
  | upper
  deriving DecidableEq

/-- The digit of a value below sixteen. -/
def hexDigit (letters : HexCase) (n : Nat) : Char :=
  if n < 10 then Char.ofNat (48 + n)
  else match letters with
    | .lower => Char.ofNat (87 + n)
    | .upper => Char.ofNat (55 + n)

/-- The lowest `width` hexadecimal digits of a number. -/
def hexFixed (letters : HexCase) : (width : Nat) → Nat → List Char
  | 0, _ => []
  | width + 1, n => hexFixed letters width (n / 16) ++ [hexDigit letters (n % 16)]

/-- Number of hexadecimal digits of a number, at least one. -/
def hexWidth (n : Nat) : Nat :=
  n.log2 / 4 + 1

/-- A number in hexadecimal, with leading zeros up to `least` digits. -/
def hex (letters : HexCase) (least : Nat) (n : Nat) : List Char :=
  hexFixed letters (max least (hexWidth n)) n

/-- The value of a hexadecimal digit. -/
def hexValue? (c : Char) : Option Nat :=
  if '0' ≤ c ∧ c ≤ '9' then some (c.toNat - 48)
  else if 'a' ≤ c ∧ c ≤ 'f' then some (c.toNat - 87)
  else if 'A' ≤ c ∧ c ≤ 'F' then some (c.toNat - 55)
  else none

/-- The value of a run of hexadecimal digits. -/
def hexNumber? (cs : List Char) : Option Nat :=
  cs.foldl (fun n c => do return (← n) * 16 + (← hexValue? c)) (some 0)

end TraceCheck.Text
