import TraceCheck.Time.Calendar

/-!
# Instants

A moment in universal time, to the nanosecond, and its text. A leap second is the
second before it with a thousand million nanoseconds or more.
-/

namespace TraceCheck.Time

/-- A moment: seconds since the first of January 1970, and nanoseconds. -/
structure Instant where
  seconds : Int
  nanos : Nat
  deriving DecidableEq, Repr

namespace Instant

/-- Nanoseconds of a second. -/
def nanosPerSecond : Nat := 1000000000

/-- Seconds of a day. -/
def secondsPerDay : Int := 86400

/-- The moment so many milliseconds after the first of January 1970. -/
def ofMillis (ms : Int) : Instant :=
  ⟨ms / 1000, (ms % 1000).toNat * 1000000⟩

/-- The last decimal digits of a number, with zeros in front. -/
def digits (width n : Nat) : List Char :=
  let ds := Nat.toDigits 10 n
  List.replicate (width - ds.length) '0' ++ ds

/-- A year: four digits, with a sign and at least four digits outside the years
that have four. -/
def yearText (year : Int) : List Char :=
  if 0 ≤ year ∧ year ≤ 9999 then digits 4 year.toNat
  else (if year < 0 then '-' else '+') :: digits 4 year.natAbs

/-- The part of a second: none, or three, six or nine digits. -/
def fractionText (nanos : Nat) : List Char :=
  if nanos = 0 then []
  else if nanos % 1000000 = 0 then '.' :: digits 3 (nanos / 1000000)
  else if nanos % 1000 = 0 then '.' :: digits 6 (nanos / 1000)
  else '.' :: digits 9 nanos

/-- The moment in universal time. -/
def text (t : Instant) : String :=
  let date := Date.ofDays (t.seconds / secondsPerDay)
  let time := (t.seconds % secondsPerDay).toNat
  let leap := if nanosPerSecond ≤ t.nanos then 1 else 0
  let nanos := if nanosPerSecond ≤ t.nanos then t.nanos - nanosPerSecond else t.nanos
  String.ofList <|
    yearText date.year ++ '-' :: digits 2 date.month ++ '-' :: digits 2 date.day ++
      'T' :: digits 2 (time / 3600) ++ ':' :: digits 2 (time / 60 % 60) ++
      ':' :: digits 2 (time % 60 + leap) ++ fractionText nanos ++ ['Z']

end Instant

end TraceCheck.Time
