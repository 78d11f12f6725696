import TraceCheck.Decimal.Reader
import TraceCheck.Mismatch
import TraceCheck.Text.Hex
import TraceCheck.Yaml.Document

/-!
# What scalars stand for

A plain scalar may stand for an absent value, a truth value or a number; every other
scalar is a text. A tag can say which of these is meant.
-/

namespace TraceCheck.Yaml

open TraceCheck.Decimal

/-- What a scalar stands for. -/
inductive Meaning where
  | null
  | bool (b : Bool)
  /-- A whole number of 64 bits. -/
  | integer (i : Int)
  /-- A whole number of 128 bits. -/
  | wide (i : Int)
  | double (x : Float)
  | text (s : String)

namespace Meaning

/-- A meaning as messages name it. -/
def found : Meaning → Found
  | .null => .nothing
  | .bool b => .boolean b
  | .integer i => .integer i
  | .wide i => .wideInteger i
  | .double x => .double x
  | .text s => .text s

end Meaning

/-- Whether a text is a word for an absent value. -/
def isNull (s : String) : Bool :=
  ["null", "Null", "NULL", "~"].contains s

/-- The truth value that a text spells. -/
def truthOf? (s : String) : Option Bool :=
  if ["true", "True", "TRUE"].contains s then some true
  else if ["false", "False", "FALSE"].contains s then some false
  else none

/-- The text behind a beginning. -/
def behind? (start : String) (cs : List Char) : Option (List Char) :=
  if start.toList.isPrefixOf cs then some (cs.drop start.length) else none

/-- The value of digits in some base. -/
def digitsIn? (base : Nat) (cs : List Char) : Option Nat :=
  if cs.isEmpty then none
  else cs.foldl (fun n c => do
    let d ← Text.hexValue? c
    if d < base then return (← n) * base + d else none) (some 0)

/-- Whether digits with a leading zero look like a number but are none. -/
def hasLeadingZero (cs : List Char) : Bool :=
  let cs := match cs with
    | '-' :: rest | '+' :: rest => rest
    | cs => cs
  1 < cs.length && cs.head? == some '0' && cs.all isDigit

/-- The bases with a mark in front. -/
def markedBases : List (String × Nat) :=
  [("0x", 16), ("0o", 8), ("0b", 2)]

/-- The whole number below a bound that a text spells. -/
def naturalOf? (bound : Nat) (cs : List Char) : Option Nat :=
  let unsigned := match cs with
    | '+' :: rest => rest
    | cs => cs
  let marked := markedBases.findSome? fun (mark, base) =>
    ((behind? mark unsigned).bind (digitsIn? base)).filter (· < bound)
  let plain := if hasLeadingZero cs then none else (digitsIn? 10 unsigned).filter (· < bound)
  marked.or plain

/-- The negative whole number down to minus a bound that a text spells. -/
def negativeOf? (bound : Nat) (cs : List Char) : Option Int :=
  match cs with
  | '-' :: rest =>
    let marked := markedBases.findSome? fun (mark, base) =>
      ((behind? mark rest).bind (digitsIn? base)).filter (· ≤ bound)
    let plain := if hasLeadingZero cs then none else (digitsIn? 10 rest).filter (· ≤ bound)
    (marked.or plain).map fun n => -(n : Int)
  | _ => none

/-- The whole number that a text spells. -/
def integerOf? (cs : List Char) : Option Meaning :=
  ((naturalOf? (1 <<< 64) cs).map fun n => Meaning.integer n)
    |>.or ((negativeOf? (1 <<< 63) cs).map .integer)
    |>.or ((naturalOf? (1 <<< 128) cs).map fun n => Meaning.wide n)
    |>.or ((negativeOf? (1 <<< 127) cs).map .wide)

/-- The double that a text spells; the words for infinity and not-a-number begin with
a point. -/
def doubleOf? (s : String) : Option Float :=
  let (hasPlus, unsigned) := match s.toList with
    | '+' :: rest => (true, rest)
    | cs => (false, cs)
  if hasPlus ∧ (unsigned.head? = some '+' ∨ unsigned.head? = some '-') then none
  else if [".inf", ".Inf", ".INF"].contains (String.ofList unsigned) then some (1.0 / 0.0)
  else if ["-.inf", "-.Inf", "-.INF"].contains s then some (-1.0 / 0.0)
  else if [".nan", ".NaN", ".NAN"].contains s then some (0.0 / 0.0)
  else (readDouble? (String.ofList unsigned)).filter (·.isFinite)

/-- What a plain scalar without a tag stands for. -/
def plainMeaning (s : String) : Meaning :=
  if s = "" ∨ isNull s then .null
  else
    match truthOf? s with
    | some b => .bool b
    | none =>
      match integerOf? s.toList with
      | some m => m
      | none =>
        match if hasLeadingZero s.toList then none else doubleOf? s with
        | some x => .double x
        | none => .text s

/-- The common beginning of the tags of the basic types. -/
def coreTag (name : String) : String :=
  "tag:yaml.org,2002:" ++ name

/-- The name behind the exclamation mark of a tag of the application. -/
def localTag? (tag : Option String) : Option String :=
  tag.bind fun t => (behind? "!" t.toList).map String.ofList

/-- What a scalar stands for, or why its tag does not fit. -/
def meaning (tag : Option String) (style : ScalarStyle) (s : String) :
    Except Mismatch Meaning :=
  let misfit (expected : String) : Except Mismatch Meaning :=
    .error (.wrongValue (.text s) expected)
  match tag with
  | none => .ok (if style = .plain then plainMeaning s else .text s)
  | some t =>
    if t = coreTag "bool" then
      match truthOf? s with
      | some b => .ok (.bool b)
      | none => misfit "a boolean"
    else if t = coreTag "int" then
      match integerOf? s.toList with
      | some m => .ok m
      | none => misfit "an integer"
    else if t = coreTag "float" then
      match doubleOf? s with
      | some x => .ok (.double x)
      | none => misfit "a float"
    else if t = coreTag "null" then
      if isNull s then .ok .null else misfit "null"
    else if (localTag? tag).isSome ∧ style = .plain then .ok (plainMeaning s)
    else .ok (.text s)

end TraceCheck.Yaml
