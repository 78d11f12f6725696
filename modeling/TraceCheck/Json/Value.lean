/-!
# Structured values

The values of JSON text. A whole number within the range of 64-bit integers is
kept exactly, every other number as a double. The members of an object are kept
in order; `Json.sorted` is the form with one member a key, in key order.
-/

namespace TraceCheck

/-- A number: whole and exact, or a double. -/
inductive Json.Number where
  | whole (i : Int)
  | double (x : Float)

/-- A structured value. -/
inductive Json where
  | null
  | bool (b : Bool)
  | number (n : Json.Number)
  | string (s : String)
  | array (items : List Json)
  | object (members : List (String × Json))

namespace Json

instance : Inhabited Json := ⟨.null⟩

/-- A whole number. -/
def int (i : Int) : Json := .number (.whole i)

/-- A double; values that are no numbers become `null`. -/
def double (x : Float) : Json :=
  if x.isFinite then .number (.double x) else .null

/-- A member that is left out when there is no value. -/
def optional (key : String) : Option Json → List (String × Json)
  | some value => [(key, value)]
  | none => []

/-- Of neighbours with the same key, keep the last. -/
def lastOfEachKey : List (String × α) → List (String × α)
  | a :: b :: rest =>
    if a.1 = b.1 then lastOfEachKey (b :: rest) else a :: lastOfEachKey (b :: rest)
  | members => members

/-- The members in key order, the last one of each key. -/
def sortMembers (members : List (String × α)) : List (String × α) :=
  lastOfEachKey (members.mergeSort fun a b => decide (a.1 ≤ b.1))

/-- The member of a key. -/
def get? (key : String) : Json → Option Json
  | .object members => (members.find? fun (k, _) => k = key).map (·.2)
  | _ => none

end Json

end TraceCheck
