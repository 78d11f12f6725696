import TraceCheck.Text.Hex

/-!
# Sets of code points

A set of code points is a list of ranges in ascending order that neither touch
nor overlap. The tables of character properties are written as text, `41-5A 61`,
and read by `CodePoints.ofText`.
-/

namespace TraceCheck.Unicode

open TraceCheck.Text

/-- The code points from `first` to `last`, both included. -/
structure Range where
  first : Nat
  last : Nat
  deriving DecidableEq, Repr

/-- A set of code points as ascending ranges that do not touch. -/
structure CodePoints where
  ranges : List Range
  deriving DecidableEq, Repr

namespace CodePoints

/-- The greatest code point. -/
def limit : Nat := 0x10FFFF

/-- Whether a code point lies in one of the ascending ranges. -/
def inRanges (n : Nat) : List Range → Bool
  | [] => false
  | r :: rest => if n < r.first then false else n ≤ r.last || inRanges n rest

/-- Whether a code point belongs to the set. -/
def mem (s : CodePoints) (n : Nat) : Bool :=
  inRanges n s.ranges

/-- Whether a character belongs to the set. -/
def contains (s : CodePoints) (c : Char) : Bool :=
  s.mem c.toNat

/-- The set without members. -/
def empty : CodePoints := ⟨[]⟩

/-- Every code point. -/
def all : CodePoints := ⟨[⟨0, limit⟩]⟩

/-- Join ranges that touch or overlap; they come in the order of their first
members. -/
def merge : List Range → List Range
  | [] => []
  | [r] => [r]
  | r :: s :: rest =>
    if s.first ≤ r.last + 1 then merge (⟨r.first, max r.last s.last⟩ :: rest)
    else r :: merge (s :: rest)
termination_by rs => rs.length

/-- The set of the members of any ranges. -/
def ofRanges (rs : List Range) : CodePoints :=
  ⟨merge (rs.mergeSort fun a b => a.first ≤ b.first)⟩

/-- The set of one code point. -/
def single (n : Nat) : CodePoints := ⟨[⟨n, n⟩]⟩

/-- The members of either set. -/
def union (s t : CodePoints) : CodePoints :=
  ofRanges (s.ranges ++ t.ranges)

/-- The gaps between ascending ranges, from `start` on. -/
def gaps (start : Nat) : List Range → List Range
  | [] => if start ≤ limit then [⟨start, limit⟩] else []
  | r :: rest =>
    if start < r.first then ⟨start, r.first - 1⟩ :: gaps (r.last + 1) rest
    else gaps (r.last + 1) rest

/-- Whether a code point is a surrogate, which no character is. -/
def isSurrogate (n : Nat) : Bool :=
  0xD800 ≤ n && n ≤ 0xDFFF

/-- A range without surrogates at its ends; they are crossed if it has no other
members. -/
def trimSurrogates (r : Range) : Range :=
  ⟨if isSurrogate r.first then 0xE000 else r.first,
    if isSurrogate r.last then 0xD7FF else r.last⟩

/-- The characters outside the set. -/
def complement (s : CodePoints) : CodePoints :=
  ⟨((gaps 0 s.ranges).map trimSurrogates).filter fun r => r.first ≤ r.last⟩

/-- The set that a negation means: the complement, except that where nothing but
surrogates lies between two ranges their ends belong to it. -/
def negation (s : CodePoints) : CodePoints :=
  ⟨((gaps 0 s.ranges).map trimSurrogates).map fun r =>
    if r.first ≤ r.last then r else ⟨r.last, r.first⟩⟩

/-- The common members of two lists of ascending ranges. -/
def interRanges : List Range → List Range → List Range
  | [], _ => []
  | _ :: _, [] => []
  | r :: rs, s :: ss =>
    let common : Range := ⟨max r.first s.first, min r.last s.last⟩
    let rest := if r.last < s.last then interRanges rs (s :: ss) else interRanges (r :: rs) ss
    if common.first ≤ common.last then common :: rest else rest
termination_by rs ss => rs.length + ss.length

/-- The common members. -/
def inter (s t : CodePoints) : CodePoints :=
  ⟨interRanges s.ranges t.ranges⟩

/-- The members of the first set only. -/
def diff (s t : CodePoints) : CodePoints :=
  s.inter t.complement

/-- The members of exactly one of the sets. -/
def symmDiff (s t : CodePoints) : CodePoints :=
  (s.diff t).union (t.diff s)

/-- One range as text: a hexadecimal number, or two of them around a dash. -/
def rangeOfText? (word : List Char) : Option Range :=
  match word.span (· != '-') with
  | (first, '-' :: last) => do return ⟨← hexNumber? first, ← hexNumber? last⟩
  | (first, _) => do
    let n ← hexNumber? first
    return ⟨n, n⟩

/-- The set that a table writes as ranges between blanks, over several lines. -/
def ofText (lines : List String) : CodePoints :=
  ⟨lines.flatMap fun line =>
    (line.toList.splitOnP (· == ' ')).filterMap rangeOfText?⟩

end CodePoints

end TraceCheck.Unicode
