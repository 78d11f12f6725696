import TraceCheck.Decimal.Double

/-!
# The shortest decimal of a double

The fewest digits whose value rounds to the given double, and of those the
value nearest to it. `positional` writes them without an exponent; `compact`
uses an exponent outside the range where positional notation is short.
-/

namespace TraceCheck.Decimal

/-- A decimal number `digits * 10 ^ exponent`. -/
structure Scientific where
  digits : Nat
  exponent : Int
  deriving DecidableEq, Repr

/-- Which neighbour wins when a value lies exactly between two candidates. -/
inductive Tie where
  | up
  | even
  deriving DecidableEq

/-- Number of decimal digits, none for zero. -/
def digitCount (n : Nat) : Nat :=
  if n = 0 then 0 else (Nat.toDigits 10 n).length

/-- The position of the first digit of `num / den`: the greatest `e` with
`10 ^ e ≤ num / den`. -/
def leadingPlace (num den : Nat) : Int :=
  if den ≤ num then (digitCount (num / den) : Int) - 1
  else -(digitCount ((den + num - 1) / num - 1) : Int)

/-- The reals that round to a positive double, scaled to natural numbers: the
ends `low / scale` and `high / scale` belong to them when `closed`. -/
structure Interval where
  low : Nat
  value : Nat
  high : Nat
  scale : Nat
  closed : Bool

/-- The interval of the reals that round to a positive double. Below a power
of two the neighbouring double is only half as far away. -/
def Interval.ofBinary (b : Binary) : Interval :=
  let narrow := b.significand = 1 <<< 52 ∧ minExponent < b.exponent
  let up := if 0 ≤ b.exponent then 1 <<< b.exponent.toNat else 1
  let down := if 0 ≤ b.exponent then 1 else 1 <<< (-b.exponent).toNat
  { low := (4 * b.significand - if narrow then 1 else 2) * up
    value := 4 * b.significand * up
    high := (4 * b.significand + 2) * up
    scale := 4 * down
    closed := b.significand % 2 = 0 }

/-- Whether `digits * 10 ^ exponent` rounds to the double of the interval. -/
def Interval.contains (i : Interval) (s : Scientific) : Bool :=
  let num := if 0 ≤ s.exponent then s.digits * powerOfTen s.exponent.toNat * i.scale
    else s.digits * i.scale
  let den := if 0 ≤ s.exponent then 1 else powerOfTen (-s.exponent).toNat
  if i.closed then i.low * den ≤ num && num ≤ i.high * den
  else i.low * den < num && num < i.high * den

/-- The value of the interval on the grid of multiples of `10 ^ exponent`:
the multiple below it, and how twice the rest compares with one step. -/
def Interval.below (i : Interval) (exponent : Int) : Nat × Ordering :=
  let num := if 0 ≤ exponent then i.value else i.value * powerOfTen (-exponent).toNat
  let den := if 0 ≤ exponent then i.scale * powerOfTen exponent.toNat else i.scale
  (num / den, compare (2 * (num % den)) den)

/-- The candidate on one grid, if one of the two neighbours of the value on
this grid rounds to the double. -/
def Interval.onGrid (i : Interval) (tie : Tie) (exponent : Int) : Option Scientific :=
  let (d, rest) := i.below exponent
  let lower : Scientific := ⟨d, exponent⟩
  let upper : Scientific := ⟨d + 1, exponent⟩
  match i.contains lower, i.contains upper with
  | false, false => none
  | true, false => some lower
  | false, true => some upper
  | true, true =>
    match rest, tie with
    | .lt, _ => some lower
    | .gt, _ => some upper
    | .eq, .up => some upper
    | .eq, .even => some (if d % 2 = 0 then lower else upper)

/-- The first grid with a candidate, from coarse to fine. -/
def Interval.search (i : Interval) (tie : Tie) (place : Int) : (grids : Nat) → Nat → Scientific
  | 0, size => ⟨(i.below (place + 1 - size)).1, place + 1 - size⟩
  | grids + 1, size =>
    match i.onGrid tie (place + 1 - size) with
    | some s => s
    | none => i.search tie place grids (size + 1)

/-- Drop the zeros at the end of the digits. -/
def Scientific.trimmed (s : Scientific) : Scientific :=
  go s (digitCount s.digits)
where
  /-- `fuel` bounds the number of zeros. -/
  go (s : Scientific) : (fuel : Nat) → Scientific
    | 0 => s
    | fuel + 1 =>
      if s.digits ≠ 0 ∧ s.digits % 10 = 0 then go ⟨s.digits / 10, s.exponent + 1⟩ fuel
      else s

/-- The shortest decimal that rounds to a positive finite double. Seventeen
digits are always enough. -/
def shortest (tie : Tie) (x : Float) : Scientific :=
  let b := Binary.ofFloat x
  let i := Interval.ofBinary b
  (i.search tie (leadingPlace i.value i.scale) 17 1).trimmed

/-- The digits as characters. -/
def Scientific.text (s : Scientific) : List Char :=
  Nat.toDigits 10 s.digits

/-- A decimal number without an exponent and without a point when it is whole. -/
def Scientific.positional (s : Scientific) : List Char :=
  let ds := s.text
  if 0 ≤ s.exponent then ds ++ List.replicate s.exponent.toNat '0'
  else
    let places := (-s.exponent).toNat
    if places < ds.length then
      ds.take (ds.length - places) ++ '.' :: ds.drop (ds.length - places)
    else '0' :: '.' :: (List.replicate (places - ds.length) '0' ++ ds)

/-- A double in full: never an exponent, no point when it is whole, and words
for the values that are no numbers. -/
def positional (x : Float) : String :=
  if x.isNaN then "NaN"
  else
    let body :=
      if x.isInf then ['i', 'n', 'f']
      else if x == 0 then ['0']
      else (shortest .up x).positional
    String.ofList (if isNegative x then '-' :: body else body)

/-- The last place before the point that positional notation still reaches. -/
def maxPositionalPlace : Int := 16

/-- The number of zeros after the point from which an exponent is shorter. -/
def minPositionalPlace : Int := -5

/-- An exponent with its sign. -/
def signedExponent (e : Int) : List Char :=
  if e < 0 then (toString e).toList else '+' :: (toString e).toList

/-- A decimal number as structured text writes it: positional with a point
from `0.00001` to sixteen places before the point, else with an exponent. -/
def Scientific.compact (s : Scientific) : List Char :=
  let ds := s.text
  let point : Int := ds.length + s.exponent
  if 0 ≤ s.exponent ∧ point ≤ maxPositionalPlace then s.positional ++ ['.', '0']
  else if minPositionalPlace < point ∧ point ≤ maxPositionalPlace then s.positional
  else
    let exponent := signedExponent (point - 1)
    match ds with
    | [] => []
    | [d] => d :: 'e' :: exponent
    | d :: rest => d :: '.' :: rest ++ 'e' :: exponent

/-- A finite double as structured text writes it. -/
def compact (x : Float) : String :=
  let body := if x == 0 then ['0', '.', '0'] else (shortest .even x).compact
  String.ofList (if isNegative x then '-' :: body else body)

end TraceCheck.Decimal
