import TraceCheck.Decimal.Double

/-!
# Reading numbers

`readDouble?` accepts an optional sign, digits with an optional fraction and an
optional exponent, and the words for infinity and not-a-number; `readNat?`
accepts whole numbers of bounded size.
-/

namespace TraceCheck.Decimal

/-- The decimal digits. -/
def isDigit (c : Char) : Bool :=
  '0' ≤ c && c ≤ '9'

/-- The value of a run of decimal digits. -/
def digitsValue (cs : List Char) : Nat :=
  cs.foldl (fun n c => n * 10 + (c.toNat - 48)) 0

/-- A sign in front, `true` for a minus. -/
def splitSign : List Char → Bool × List Char
  | '-' :: rest => (true, rest)
  | '+' :: rest => (false, rest)
  | cs => (false, cs)

/-- An exponent that ends the text; no text is the exponent zero. -/
def readExponent? : List Char → Option Int
  | [] => some 0
  | c :: rest =>
    if c = 'e' ∨ c = 'E' then
      let (negative, ds) := splitSign rest
      if ds ≠ [] ∧ ds.all isDigit then
        let n : Int := digitsValue ds
        some (if negative then -n else n)
      else none
    else none

/-- A number without its sign. -/
def readMagnitude? (cs : List Char) : Option Float :=
  let word := cs.map Char.toLower
  if word = "inf".toList ∨ word = "infinity".toList then some (1.0 / 0.0)
  else if word = "nan".toList then some (0.0 / 0.0)
  else
    let whole := cs.takeWhile isDigit
    let rest := cs.dropWhile isDigit
    let (fraction, rest) := match rest with
      | '.' :: rest => (rest.takeWhile isDigit, rest.dropWhile isDigit)
      | rest => ([], rest)
    if whole = [] ∧ fraction = [] then none
    else do
      let exponent ← readExponent? rest
      return ofScientific (digitsValue (whole ++ fraction)) (exponent - fraction.length)

/-- The double nearest to the number that the whole text spells. -/
def readDouble? (s : String) : Option Float :=
  let (negative, cs) := splitSign s.toList
  (readMagnitude? cs).map fun x => if negative then -x else x

/-- A whole number below `bound`; a plus sign is allowed. -/
def readNat? (bound : Nat) (s : String) : Option Nat :=
  let cs := match s.toList with
    | '+' :: rest => rest
    | cs => cs
  if cs ≠ [] ∧ cs.all isDigit ∧ digitsValue cs < bound then some (digitsValue cs) else none

end TraceCheck.Decimal
