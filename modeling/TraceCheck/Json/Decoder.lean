import TraceCheck.Json.Reader

/-!
# Decoding typed data

A `Decoder` gives a typed value from JSON text, where faults have places, and
from a structured value, where they have none. `Decoder.record` builds the
decoder of a structure from its fields: members in any order, by one of the
names of each field, none twice; or an array with the fields in their order.
-/

namespace TraceCheck.Json

/-- How to decode one type from text and from a value. -/
structure Decoder (α : Type) where
  fromText : Reader α
  fromValue : Json → Except Fault α

/-- A mismatch in a structured value. -/
def refuse (m : Mismatch) : Except Fault α :=
  .error ⟨.data m, none⟩

/-- What a structured value is found to be. -/
def found : Json → Found
  | .null => .nothing
  | .bool b => .boolean b
  | .number (.whole i) => .integer i
  | .number (.double x) => .double x
  | .string s => .text s
  | .array _ => .list
  | .object _ => .record

/-- The next value in the text has another type than expected. A scalar is read
first; a container is not entered. -/
def wrongType (expected : String) : Reader α := do
  match ← peekToken with
  | some '"' =>
    skip
    let s ← stringRest true
    mismatchHere (.wrongType (.text s) expected)
  | some '[' => mismatchHere (.wrongType .list expected)
  | some '\x7b' => mismatchHere (.wrongType .record expected)
  | _ =>
    let j ← readValue 1
    mismatchHere (.wrongType (found j) expected)

namespace Decoder

/-- A string that has to spell a value of the type, else the reason why not. -/
def spelled (expected : String) (parse : String → Except Mismatch α) : Decoder α where
  fromText := do
    if (← startValue) = '"' then
      skip
      match parse (← stringRest true) with
      | .ok a => pure a
      | .error m => mismatchHere m
    else wrongType expected
  fromValue
    | .string s =>
      match parse s with
      | .ok a => .ok a
      | .error m => refuse m
    | j => refuse (.wrongType (found j) expected)

/-- Any string. -/
def string : Decoder String := spelled "a string" .ok

/-- The double nearest to a number. -/
def numberToFloat : Number → Float
  | .whole i => Decimal.ofInt i
  | .double x => x

/-- Any number, as a double. -/
def double : Decoder Float where
  fromText := do
    let c ← startValue
    if c = '-' || Decimal.isDigit c then return numberToFloat (← readNumber)
    else wrongType "f64"
  fromValue
    | .number n => .ok (numberToFloat n)
    | j => refuse (.wrongType (found j) "f64")

/-- A truth value. -/
def boolean : Decoder Bool where
  fromText := do
    match ← startValue with
    | 't' => skip; word ['r', 'u', 'e']; pure true
    | 'f' => skip; word ['a', 'l', 's', 'e']; pure false
    | _ => wrongType "a boolean"
  fromValue
    | .bool b => .ok b
    | j => refuse (.wrongType (found j) "a boolean")

/-- A value of the type, or `null` for none. -/
def optional (d : Decoder α) : Decoder (Option α) where
  fromText := do
    match ← peekToken with
    | some 'n' => skip; word ['u', 'l', 'l']; pure none
    | _ => some <$> d.fromText
  fromValue
    | .null => .ok none
    | j => some <$> d.fromValue j

/-- Any value. -/
def any : Decoder Json where
  fromText := anyValue
  fromValue := .ok

/-- The items of an array in the text, up to its end. -/
def itemsFromText (d : Decoder α) : (fuel : Nat) → (first : Bool) → Reader (List α)
  | 0, _ => pure []
  | fuel + 1, first => do
    if ← hasItem first then
      let a ← d.fromText
      return a :: (← itemsFromText d fuel false)
    else pure []

/-- An array of values of the type. -/
def list (d : Decoder α) : Decoder (List α) where
  fromText := do
    if (← startValue) = '[' then
      closing (deeper (do itemsFromText d (← loopBound) true)) endList
    else wrongType "a sequence"
  fromValue
    | .array items => items.mapM d.fromValue
    | j => refuse (.wrongType (found j) "a sequence")

/-- An object with any members, in the order of the text. -/
def members : Decoder (List (String × Json)) where
  fromText := do
    if (← startValue) = '\x7b' then
      closing (deeper (do readMembers (← loopBound) true)) endObject
    else wrongType "a map"
  fromValue
    | .object ms => .ok ms
    | j => refuse (.wrongType (found j) "a map")

/-- The value `null`. -/
def unit : Decoder Unit where
  fromText := do
    if (← startValue) = 'n' then
      skip
      word ['u', 'l', 'l']
    else wrongType "unit"
  fromValue
    | .null => .ok ()
    | j => refuse (.wrongType (found j) "unit")

/-- The value that a name stands for. -/
def named (names : List (String × α)) (s : String) : Except Mismatch α :=
  match names.lookup s with
  | some a => .ok a
  | none => .error (.unknownVariant s (names.map (·.1)))

/-- One of the named values: its name as a string, or as the only key of an
object, with the value `null`. -/
def enumeration (names : List (String × α)) : Decoder α where
  fromText := do
    match ← startValue with
    | '"' => name.fromText
    | '\x7b' => deeper do
        let a ← name.fromText
        colon
        unit.fromText
        match ← peekToken with
        | some '\x7d' => skip; pure a
        | some _ => failHere .expectedValue
        | none => failHere .eofInObject
    | _ => failNext .expectedValue
  fromValue
    | .string s =>
      match named names s with
      | .ok a => .ok a
      | .error m => refuse m
    | .object [(k, j)] =>
      match named names k with
      | .ok a => do
        unit.fromValue j
        return a
      | .error m => refuse m
    | .object _ => refuse (.wrongValue .record "map with a single key")
    | j => refuse (.wrongType (found j) "string or map")
where
  /-- The name on its own. -/
  name : Decoder α := spelled "variant identifier" (named names)

end Decoder

/-- One field of a structure that is being filled: its names, the one used in
messages first; whether it must be given; and how to see and to set it. -/
structure Field (σ : Type) where
  names : List String
  required : Bool
  isSet : σ → Bool
  setFromText : σ → Reader σ
  setFromValue : σ → Json → Except Fault σ

/-- The field that holds a value of a decoded type. -/
def Field.of (names : List String) (required : Bool) (d : Decoder α)
    (get : σ → Option α) (set : σ → α → σ) : Field σ where
  names := names
  required := required
  isSet s := (get s).isSome
  setFromText s := do return set s (← d.fromText)
  setFromValue s j := do return set s (← d.fromValue j)

/-- The name of a field in messages. -/
def Field.name (f : Field σ) : String :=
  f.names.headD ""

namespace Decoder

/-- The field that a key names. -/
def fieldOf? (fields : List (Field σ)) (key : String) : Option (Field σ) :=
  fields.find? fun f => f.names.contains key

/-- The first required field that is not set, with its index. -/
def missing? (fields : List (Field σ)) (s : σ) : Option (Nat × String) :=
  (fields.zipIdx.find? fun (f, _) => f.required && !f.isSet s).map fun (f, i) => (i, f.name)

/-- The members of an object in the text, each into its field. -/
def membersFromText (fields : List (Field σ)) :
    (fuel : Nat) → (first : Bool) → σ → Reader σ
  | 0, _, s => pure s
  | fuel + 1, first, s => do
    if ← hasMember first then
      match fieldOf? fields (← key) with
      | some f =>
        if f.isSet s then mismatch (.duplicateField f.name)
        else do
          colon
          membersFromText fields fuel false (← f.setFromText s)
      | none => do
        colon
        skipValue
        membersFromText fields fuel false s
    else pure s

/-- The members of an object, each into its field. -/
def membersFromValue (fields : List (Field σ)) :
    List (String × Json) → σ → Except Fault σ
  | [], s => .ok s
  | (k, j) :: rest, s =>
    match fieldOf? fields k with
    | some f =>
      if f.isSet s then refuse (.duplicateField f.name)
      else do membersFromValue fields rest (← f.setFromValue s j)
    | none => membersFromValue fields rest s

/-- The items of an array in the text, each into the next field. -/
def fieldsFromText : List (Field σ) → (first : Bool) → σ → Reader σ
  | [], _, s => pure s
  | f :: rest, first, s => do
    if ← hasItem first then fieldsFromText rest false (← f.setFromText s)
    else pure s

/-- The items of an array, each into the next field. -/
def fieldsFromValue : List (Field σ) → List Json → σ → Except Fault σ
  | f :: rest, j :: js, s => do fieldsFromValue rest js (← f.setFromValue s j)
  | _, _, s => .ok s

/-- What is wrong with a structure that lacks a required field: by name, or by
the length of the array that it came from. -/
def lack (expected : String) (fields : List (Field σ)) (byName : Bool) (s : σ) :
    Option Mismatch :=
  (missing? fields s).map fun (i, name) =>
    if byName then .missingField name
    else .wrongLength i (expected ++ " with " ++ toString fields.length ++ " elements")

/-- The structure `expected`, filled from `start` field by field and completed
by `finish` when every required field is set. -/
def record (expected : String) (fields : List (Field σ)) (start : σ) (finish : σ → α) :
    Decoder α where
  fromText := do
    match ← startValue with
    | '\x7b' =>
      closing
        (deeper do
          complete true (← membersFromText fields (← loopBound) true start))
        endObject
    | '[' =>
      closing (deeper do complete false (← fieldsFromText fields true start)) endList
    | _ => wrongType expected
  fromValue
    | .object ms => do check true (← membersFromValue fields ms start)
    | .array js => do
      let a ← check false (← fieldsFromValue fields js start)
      if fields.length < js.length then
        refuse (.wrongLength js.length "fewer elements in array")
      else return a
    | j => refuse (.wrongType (found j) expected)
where
  /-- Finish a structure read from text. -/
  complete (byName : Bool) (s : σ) : Reader α :=
    match lack expected fields byName s with
    | some m => mismatch m
    | none => pure (finish s)
  /-- Finish a structure read from a value. -/
  check (byName : Bool) (s : σ) : Except Fault α :=
    match lack expected fields byName s with
    | some m => refuse m
    | none => .ok (finish s)

/-- Decode a whole text. -/
def decodeText (d : Decoder α) (text : String) : Except Fault α :=
  runText d.fromText text

end Decoder

end TraceCheck.Json
