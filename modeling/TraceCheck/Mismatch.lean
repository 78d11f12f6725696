import TraceCheck.Decimal.Shortest
import TraceCheck.Text.Quoted

/-!
# Mismatches between data and the record it should fill

What can be wrong with well-formed data: a value of another type, a missing or
repeated field, a name outside a fixed list. `Mismatch.message` words them; the
two input formats differ only in how they name an absent value.
-/

namespace TraceCheck

/-- The value that was found where another was expected. -/
inductive Found where
  | boolean (b : Bool)
  | integer (i : Int)
  | wideInteger (i : Int)
  | double (x : Float)
  | text (s : String)
  | nothing
  | list
  | record
  | enum

/-- What is wrong with well-formed data. -/
inductive Mismatch where
  /-- A value of another type than expected. -/
  | wrongType (found : Found) (expected : String)
  /-- A value of the right type that is not allowed. -/
  | wrongValue (found : Found) (expected : String)
  /-- A list of the wrong length. -/
  | wrongLength (length : Nat) (expected : String)
  /-- A required field is absent. -/
  | missingField (name : String)
  /-- A field is given twice. -/
  | duplicateField (name : String)
  /-- A name outside a fixed list. -/
  | unknownVariant (name : String) (allowed : List String)
  /-- A text that does not spell a value, with the reason. -/
  | malformed (reason : String)

/-- How a format words an absent value. -/
structure Wording where
  nothing : String
  double : Float → String

/-- A double with a point even when it is whole. -/
def pointedDouble (x : Float) : String :=
  let s := Decimal.positional x
  if x.isFinite && !s.toList.contains '.' then s ++ ".0" else s

/-- The words for a found value. -/
def Found.describe (w : Wording) : Found → String
  | .boolean b => "boolean `" ++ (if b then "true" else "false") ++ "`"
  | .integer i => "integer `" ++ toString i ++ "`"
  | .wideInteger i => "integer `" ++ toString i ++ (if i < 0 then "` as i128" else "` as u128")
  | .double x => "floating point `" ++ w.double x ++ "`"
  | .text s => "string " ++ Text.quoted s
  | .nothing => w.nothing
  | .list => "sequence"
  | .record => "map"
  | .enum => "enum"

/-- A list of names in backquotes. -/
def quotedNames (names : List String) : String :=
  ", ".intercalate (names.map fun n => "`" ++ n ++ "`")

/-- The end of a message that lists the names allowed. -/
def expectedNames : List String → String
  | [] => "there are no variants"
  | [a] => "expected " ++ quotedNames [a]
  | [a, b] => "expected " ++ quotedNames [a] ++ " or " ++ quotedNames [b]
  | names => "expected one of " ++ quotedNames names

/-- The words for a mismatch. -/
def Mismatch.message (w : Wording) : Mismatch → String
  | .wrongType found expected =>
    "invalid type: " ++ found.describe w ++ ", expected " ++ expected
  | .wrongValue found expected =>
    "invalid value: " ++ found.describe w ++ ", expected " ++ expected
  | .wrongLength length expected =>
    "invalid length " ++ toString length ++ ", expected " ++ expected
  | .missingField name => "missing field `" ++ name ++ "`"
  | .duplicateField name => "duplicate field `" ++ name ++ "`"
  | .unknownVariant name allowed =>
    "unknown variant `" ++ name ++ "`, " ++ expectedNames allowed
  | .malformed reason => reason

end TraceCheck
