import TraceCheck.Decimal.Reader
import TraceCheck.Text.Blank
import TraceCheck.Time.Instant

/-!
# Reading instants

A date, a time of day with an optional fraction of a second, and the distance
from universal time. Blanks may stand before each number and mark, and a day has a
60th second in any of its minutes.
-/

namespace TraceCheck.Time

open TraceCheck.Text TraceCheck.Decimal

/-- Why a text is no moment. -/
inductive ReadError where
  | outOfRange
  | impossible
  | invalid
  | tooShort
  | tooLong
  deriving DecidableEq, Repr

/-- The words for an error. -/
def ReadError.message : ReadError → String
  | .outOfRange => "input is out of range"
  | .impossible => "no possible date and time matching input"
  | .invalid => "input contains invalid characters"
  | .tooShort => "premature end of input"
  | .tooLong => "trailing input"

/-- A step of reading takes characters off the text. -/
abbrev Reader := StateT (List Char) (Except ReadError)

namespace Reader

/-- Pass blanks. -/
def blanks : Reader Unit := fun cs => .ok ((), cs.dropWhile isBlank)

/-- Pass a character. -/
def mark (c : Char) : Reader Unit
  | [] => .error .tooShort
  | d :: rest => if d = c then .ok ((), rest) else .error .invalid

/-- Whole numbers are below this. -/
def numberBound : Nat := 1 <<< 63

/-- Read at least one and, if there is a bound, at most so many digits. -/
def number (most : Option Nat) : Reader Nat
  | [] => .error .tooShort
  | cs =>
    let digits := match most with
      | some n => (cs.take n).takeWhile isDigit
      | none => cs.takeWhile isDigit
    if digits.isEmpty then .error .invalid
    else if numberBound ≤ digitsValue digits then .error .outOfRange
    else .ok (digitsValue digits, cs.drop digits.length)

/-- Read a number of two digits within bounds. -/
def field (least most : Nat) : Reader Nat := do
  blanks
  let n ← number (some 2)
  if least ≤ n ∧ n ≤ most then return n else throw .outOfRange

/-- Read a year: up to four digits, or any number of digits with a sign. -/
def year : Reader Int := do
  blanks
  let y : Int ← match (← get).head? with
    | some '-' => do
      modify List.tail
      pure (-(← number none))
    | some '+' => do
      modify List.tail
      pure (← number none)
    | _ => do pure (← number (some 4))
  if -0x80000000 ≤ y ∧ y < 0x80000000 then return y else throw .outOfRange

/-- Read a fraction of a second in nanoseconds; digits behind the ninth are
passed. -/
def fraction : Reader Nat := do
  match ← get with
  | '.' :: rest =>
    set rest
    let n ← number (some 9)
    let used := rest.length - (← get).length
    modify fun cs => cs.dropWhile isDigit
    return n * Decimal.powerOfTen (9 - used)
  | _ => return 0

/-- The two digits at the start of a text. -/
def twoDigits (leastFirst mostFirst : Char) : Reader Nat := fun cs =>
  if byteSize cs < 2 then .error .tooShort
  else
    match cs with
    | a :: b :: rest =>
      if isDigit a && isDigit b then
        if leastFirst ≤ a && a ≤ mostFirst then .ok (digitsValue [a, b], rest)
        else .error .outOfRange
      else .error .invalid
    | _ => .error .invalid

/-- Read the seconds by which the time is ahead of universal time. -/
def offset : Reader Int := do
  match ← get with
  | [] => throw .tooShort
  | c :: rest =>
    if c = 'Z' ∨ c = 'z' then
      set rest
      return 0
    else if c = '+' ∨ c = '-' ∨ c = '\u2212' then
      set rest
      let hours ← twoDigits '0' '9'
      modify fun cs => cs.dropWhile fun c => c == ':' || isBlank c
      let minutes ← twoDigits '0' '5'
      let seconds : Int := hours * 3600 + minutes * 60
      return if c = '+' then seconds else -seconds
    else throw .invalid

/-- Read the name of universal time, or a distance from it. -/
def zone : Reader Int := do
  let cs ← get
  if (cs.take 3).map Char.toUpper = ['U', 'T', 'C'] then
    set (cs.drop 3)
    return 0
  else offset

end Reader

/-- The first and the last year that a moment can have. -/
def yearBounds : Int × Int := (-262143, 262142)

/-- Whether a year is within bounds. -/
def isYear (y : Int) : Bool :=
  yearBounds.1 ≤ y && y ≤ yearBounds.2

/-- Read a moment. -/
def Reader.instant : Reader Instant := do
  let year ← Reader.year
  Reader.blanks
  Reader.mark '-'
  let month ← Reader.field 1 12
  Reader.blanks
  Reader.mark '-'
  let day ← Reader.field 1 31
  match ← get with
  | [] => throw .tooShort
  | c :: rest => if c = 'T' ∨ c = 't' ∨ c = ' ' then set rest else throw .invalid
  let hour ← Reader.field 0 23
  Reader.blanks
  Reader.mark ':'
  let minute ← Reader.field 0 59
  Reader.blanks
  Reader.mark ':'
  let second ← Reader.field 0 60
  let nanos ← Reader.fraction
  Reader.blanks
  let offset ← Reader.zone
  if ¬ (← get).all isBlank then throw .tooLong
  let date : Date := ⟨year, month, day⟩
  if !isYear year || !date.exists then throw .outOfRange
  if Instant.secondsPerDay ≤ offset.natAbs then throw .outOfRange
  let civil := date.toDays * Instant.secondsPerDay + hour * 3600 + minute * 60 +
    min second 59
  let t : Instant :=
    ⟨civil - offset, if second = 60 then nanos + Instant.nanosPerSecond else nanos⟩
  if !isYear (Date.ofDays (t.seconds / Instant.secondsPerDay)).year then throw .impossible
  return t

/-- The moment that a whole text describes. -/
def Instant.ofText (s : String) : Except ReadError Instant :=
  (Reader.instant.run s.toList).map (·.1)

end TraceCheck.Time
