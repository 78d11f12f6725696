import TraceCheck.Decimal.Reader
import TraceCheck.Json.Cursor

/-!
# Reading JSON text

`readValue` reads any value. `skipValue` passes a value that nobody asked for:
it checks the shape of the text but not the size of numbers, the pairing of
surrogates or the depth. A number is whole if it fits 64 bits; the others are
rounded in two steps, first to their leading digits and then by one power of
ten.
-/

namespace TraceCheck.Json

open TraceCheck.Text TraceCheck.Decimal

/-- The place after some bytes of the text still to be read. -/
def placeAfterBytes : Nat → List Char → Position → Position
  | 0, _, p => p
  | _, [], p => p
  | n + 1, c :: rest, p =>
    if c.utf8Size ≤ n + 1 then placeAfterBytes (n + 1 - c.utf8Size) rest (p.after c)
    else ⟨p.line, p.column + (n + 1)⟩
termination_by _ cs => cs.length

/-- Four hexadecimal digits. -/
def hexEscape : Reader Nat := fun s =>
  if byteSize (s.rest.take 4) < 4 then
    let stop := s.rest.foldl Position.after s.position
    .error ⟨.spelling .eofInString, some stop⟩ { s with rest := [], position := stop }
  else
    match hexNumber? (s.rest.take 4) with
    | some n =>
      .ok n { s with rest := s.rest.drop 4, position := placeAfterBytes 4 s.rest s.position }
    | none =>
      .error ⟨.spelling .invalidEscape, some (placeAfterBytes 4 s.rest s.position)⟩ s
where
  /-- Bytes of a few characters. -/
  byteSize (cs : List Char) : Nat := cs.foldl (fun n c => n + c.utf8Size) 0

/-- The next character of a string. -/
def peekInString : Reader Char := do
  match ← peek with
  | none => failHere .eofInString
  | some c => pure c

/-- The character of a `\u` escape: code points beyond the first plane are two
escapes, a leading and a trailing surrogate. -/
def unicodeEscape : Reader Char := do
  let n ← hexEscape
  if 0xDC00 ≤ n ∧ n ≤ 0xDFFF then failHere .loneSurrogate
  else if n < 0xD800 ∨ 0xDBFF < n then pure (Char.ofNat n)
  else
    for c in ['\\', 'u'] do
      let d ← peekInString
      if d = c then skip
      else fun s => .error ⟨.spelling .endOfHexEscape, some s.nextPosition⟩ s
    let m ← hexEscape
    if m < 0xDC00 ∨ 0xDFFF < m then failHere .loneSurrogate
    else pure (Char.ofNat (0x10000 + (n - 0xD800) * 0x400 + (m - 0xDC00)))

/-- The character of an escape; the backslash has been passed. -/
def escape (strict : Bool) : Reader Char := do
  let c ← peekInString
  match c with
  | '"' => skip; pure '"'
  | '\\' => skip; pure '\\'
  | '/' => skip; pure '/'
  | 'b' => skip; pure '\x08'
  | 'f' => skip; pure '\x0c'
  | 'n' => skip; pure '\n'
  | 'r' => skip; pure '\r'
  | 't' => skip; pure '\t'
  | 'u' =>
    skip
    if strict then unicodeEscape
    else do
      let _ ← hexEscape
      pure 'u'
  | _ => failNext .invalidEscape

/-- The characters of a string up to its closing quote; the opening quote has
been passed. -/
def stringChars (strict : Bool) : (fuel : Nat) → (read : List Char) → Reader (List Char)
  | 0, _ => failHere .eofInString
  | fuel + 1, read => do
    match ← next with
    | none => failHere .eofInString
    | some '"' => pure read.reverse
    | some '\\' => do
      let c ← escape strict
      stringChars strict fuel (c :: read)
    | some c =>
      if c.toNat < 0x20 then failHere .controlCharacter
      else stringChars strict fuel (c :: read)

/-- More than the number of the characters still to be read, as a bound for loops. -/
def loopBound : Reader Nat := fun s => .ok (s.size + 1) s

/-- The rest of a string after its opening quote. -/
def stringRest (strict : Bool) : Reader String := do
  return String.ofList (← stringChars strict (← loopBound) [])

/-- The next character if it is a digit. -/
def peekDigit : Reader (Option Nat) := do
  match ← peek with
  | some c => pure (if isDigit c then some (c.toNat - 48) else none)
  | none => pure none

/-- Whether the next character is one of two. -/
def peekIs (a b : Char) : Reader Bool := do
  match ← peek with
  | some c => pure (c = a || c = b)
  | none => pure false

/-- The bound of exact whole numbers. -/
def wholeBound : Nat := 1 <<< 64

/-- The bound of the digits of an exponent. -/
def exponentBound : Nat := 1 <<< 31

/-- A double from its leading digits and a power of ten: the digits are rounded,
then multiplied or divided once; exponents beyond 308 go in several steps. -/
def scale (significand : Float) (exponent : Int) : (steps : Nat) → Option Float
  | 0 => some significand
  | steps + 1 =>
    if exponent.natAbs ≤ 308 then
      let power := ofScientific 1 exponent.natAbs
      if 0 ≤ exponent then
        let x := significand * power
        if x.isInf then none else some x
      else some (significand / power)
    else if significand == 0 then some significand
    else if 0 ≤ exponent then none
    else scale (significand / ofScientific 1 308) (exponent + 308) steps

/-- The signed double of leading digits and a power of ten. -/
def scaled (negative : Bool) (significand : Nat) (exponent : Int) : Reader Number := do
  match scale (ofInt significand) exponent 10 with
  | none => failHere .numberOutOfRange
  | some x => pure (.double (if negative then -x else x))

/-- The digits of an exponent, unless they exceed the bound. -/
def exponentDigits : (fuel : Nat) → Nat → Reader (Option Nat)
  | 0, n => pure (some n)
  | fuel + 1, n => do
    match ← peekDigit with
    | none => pure (some n)
    | some d =>
      if exponentBound ≤ n * 10 + d then do
        skip
        pure none
      else do
        skip
        exponentDigits fuel (n * 10 + d)

/-- A number from its exponent mark on. -/
def exponentPart (negative : Bool) (significand : Nat) (shift : Int) : Reader Number := do
  skip
  let down ← peekIs '-' '-'
  if ← peekIs '-' '+' then skip
  match ← next with
  | none => failHere .eofInValue
  | some c =>
    if isDigit c then
      match ← exponentDigits (← loopBound) (c.toNat - 48) with
      | some n => scaled negative significand (if down then shift - n else shift + n)
      | none =>
        if significand ≠ 0 ∧ ¬down then failHere .numberOutOfRange
        else do
          skipWhile isDigit
          pure (.double (if negative then -0.0 else 0.0))
    else failHere .invalidNumber

/-- A number after its digits, whose value is no longer exact. -/
def exponentOrEnd (negative : Bool) (significand : Nat) (shift : Int) : Reader Number := do
  if ← peekIs 'e' 'E' then exponentPart negative significand shift
  else scaled negative significand shift

/-- The digits of a fraction: how many were read into the significand. Digits
that would exceed 64 bits are passed over. -/
def fractionDigits : (fuel : Nat) → Nat → Nat → Reader (Nat × Nat)
  | 0, n, places => pure (n, places)
  | fuel + 1, n, places => do
    match ← peekDigit with
    | none => pure (n, places)
    | some d =>
      if wholeBound ≤ n * 10 + d then do
        skipWhile isDigit
        pure (n, places)
      else do
        skip
        fractionDigits fuel (n * 10 + d) (places + 1)

/-- A number from its point on. -/
def fractionPart (negative : Bool) (significand : Nat) (shift : Int) : Reader Number := do
  skip
  match ← peekDigit with
  | none => if (← peek).isSome then failNext .invalidNumber else failNext .eofInValue
  | some _ =>
    let (n, places) ← fractionDigits (← loopBound) significand 0
    exponentOrEnd negative n (shift - places)

/-- The number of digits that follow. -/
def digitsAhead : Reader Nat := fun s => .ok (s.rest.takeWhile isDigit).length s

/-- The digits before the point: the leading ones that fit 64 bits, and how many
more there are. -/
def wholeDigits : (fuel : Nat) → Nat → Reader (Nat × Nat)
  | 0, n => pure (n, 0)
  | fuel + 1, n => do
    match ← peekDigit with
    | none => pure (n, 0)
    | some d =>
      if wholeBound ≤ n * 10 + d then do
        let more ← digitsAhead
        skipWhile isDigit
        pure (n, more)
      else do
        skip
        wholeDigits fuel (n * 10 + d)

/-- A whole number without fraction and exponent; below the range of 64 bits,
and for a zero with a sign, it is a double. -/
def wholeNumber (negative : Bool) (n : Nat) : Number :=
  if ¬negative then .whole n
  else if 0 < n ∧ n ≤ 1 <<< 63 then .whole (-n)
  else .double (-(ofInt n))

/-- A number without its sign. -/
def magnitude (negative : Bool) : Reader Number := do
  match ← next with
  | none => failHere .eofInValue
  | some c =>
    if c = '0' then
      if (← peekDigit).isSome then failNext .invalidNumber
      else afterDigits 0 0
    else if isDigit c then do
      let (n, more) ← wholeDigits (← loopBound) (c.toNat - 48)
      afterDigits n more
    else failHere .invalidNumber
where
  /-- What follows the digits decides between a whole number and a double. -/
  afterDigits (n more : Nat) : Reader Number := do
    if ← peekIs '.' '.' then fractionPart negative n more
    else if ← peekIs 'e' 'E' then exponentPart negative n more
    else if more = 0 then pure (wholeNumber negative n)
    else scaled negative n more

/-- A number; its first character is a sign or a digit. -/
def readNumber : Reader Number := do
  if ← peekIs '-' '-' then do
    skip
    magnitude true
  else magnitude false

/-- Run a reader one level deeper; the opening bracket is passed. -/
def deeper (body : Reader α) : Reader α := fun s =>
  if s.depth ≤ 1 then failNext .tooDeep s
  else
    match (do skip; body) { s with depth := s.depth - 1 } with
    | .ok a s' => .ok a { s' with depth := s.depth }
    | .error e s' => .error e { s' with depth := s.depth }

/-- Read what closes a container after its content. A fault without a place gets
the place behind the end of the container, as far as it can be found. -/
def closing (body : Reader α) (close : Reader Unit) : Reader α := fun s =>
  match body s with
  | .ok a s' =>
    match close s' with
    | .ok _ s'' => .ok a s''
    | .error e s'' => .error (e.orAt s''.position) s''
  | .error e s' =>
    match close s' with
    | .ok _ s'' => .error (e.orAt s''.position) s''
    | .error _ s'' => .error (e.orAt s''.position) s''

/-- The end of an array. -/
def endList : Reader Unit := do
  match ← peekToken with
  | some ']' => skip
  | some ',' =>
    skip
    match ← peekToken with
    | some ']' => failNext .trailingComma
    | _ => failNext .trailingCharacters
  | some _ => failNext .trailingCharacters
  | none => failNext .eofInList

/-- The end of an object. -/
def endObject : Reader Unit := do
  match ← peekToken with
  | some '\x7d' => skip
  | some ',' => failNext .trailingComma
  | some _ => failNext .trailingCharacters
  | none => failNext .eofInObject

/-- Whether another item of an array follows. -/
def hasItem (first : Bool) : Reader Bool := do
  match ← peekToken with
  | some ']' => pure false
  | some ',' =>
    if first then pure true
    else do
      skip
      match ← peekToken with
      | some ']' => failNext .trailingComma
      | some _ => pure true
      | none => failNext .eofInValue
  | some _ => if first then pure true else failNext .expectedListCommaOrEnd
  | none => failNext .eofInList

/-- Whether another member of an object follows; if so its key is next. -/
def hasMember (first : Bool) : Reader Bool := do
  match ← peekToken with
  | some '\x7d' => pure false
  | some ',' =>
    if first then failNext .keyMustBeString
    else do
      skip
      match ← peekToken with
      | some '"' => pure true
      | some '\x7d' => failNext .trailingComma
      | some _ => failNext .keyMustBeString
      | none => failNext .eofInValue
  | some '"' => if first then pure true else failNext .expectedObjectCommaOrEnd
  | some _ => if first then failNext .keyMustBeString else failNext .expectedObjectCommaOrEnd
  | none => failNext .eofInObject

/-- The colon between a key and its value. -/
def colon : Reader Unit := do
  match ← peekToken with
  | some ':' => skip
  | some _ => failNext .expectedColon
  | none => failNext .eofInObject

/-- The key of a member. -/
def key : Reader String := do
  skip
  stringRest true

/-- The start of a value. -/
def startValue : Reader Char := do
  match ← peekToken with
  | none => failNext .eofInValue
  | some c => pure c

mutual

/-- Any value. -/
def readValue : (fuel : Nat) → Reader Json
  | 0 => failNext .expectedValue
  | fuel + 1 => do
    match ← startValue with
    | 'n' => skip; word ['u', 'l', 'l']; pure .null
    | 't' => skip; word ['r', 'u', 'e']; pure (.bool true)
    | 'f' => skip; word ['a', 'l', 's', 'e']; pure (.bool false)
    | '"' => skip; return .string (← stringRest true)
    | '[' => return .array (← closing (deeper (readItems fuel true)) endList)
    | '\x7b' => return .object (← closing (deeper (readMembers fuel true)) endObject)
    | c =>
      if c = '-' || isDigit c then return .number (← readNumber)
      else failNext .expectedValue

/-- The items of an array, up to its end. -/
def readItems : (fuel : Nat) → (first : Bool) → Reader (List Json)
  | 0, _ => failNext .expectedValue
  | fuel + 1, first => do
    if ← hasItem first then
      let j ← readValue fuel
      return j :: (← readItems fuel false)
    else pure []

/-- The members of an object, up to its end. -/
def readMembers : (fuel : Nat) → (first : Bool) → Reader (List (String × Json))
  | 0, _ => failNext .expectedValue
  | fuel + 1, first => do
    if ← hasMember first then
      let k ← key
      colon
      let j ← readValue fuel
      return (k, j) :: (← readMembers fuel false)
    else pure []

end

/-- Any value; the length of the text bounds its size. -/
def anyValue : Reader Json := do
  readValue (← loopBound)

/-- Pass the fraction and the exponent of a number. -/
def skipFraction : Reader Unit := do
  if ← peekIs '.' '.' then
    skip
    if (← peekDigit).isNone then failNext .invalidNumber
    skipWhile isDigit
  if ← peekIs 'e' 'E' then
    skip
    if ← peekIs '+' '-' then skip
    match ← next with
    | some c => if isDigit c then skipWhile isDigit else failHere .invalidNumber
    | none => failHere .invalidNumber

/-- Pass a number. -/
def skipNumber : Reader Unit := do
  if ← peekIs '-' '-' then skip
  match ← next with
  | none => failHere .invalidNumber
  | some c =>
    if c = '0' then
      if (← peekDigit).isSome then failNext .invalidNumber
      skipFraction
    else if isDigit c then
      skipWhile isDigit
      skipFraction
    else failHere .invalidNumber

mutual

/-- Pass a value. -/
def skipAny : (fuel : Nat) → Reader Unit
  | 0 => failNext .expectedValue
  | fuel + 1 => do
    match ← startValue with
    | 'n' => skip; word ['u', 'l', 'l']
    | 't' => skip; word ['r', 'u', 'e']
    | 'f' => skip; word ['a', 'l', 's', 'e']
    | '"' => skip; discard (stringRest false)
    | '[' => skip; skipItems fuel true
    | '\x7b' => skip; skipMembers fuel true
    | c => if c = '-' || isDigit c then skipNumber else failNext .expectedValue

/-- Pass the items of an array and its end. -/
def skipItems : (fuel : Nat) → (first : Bool) → Reader Unit
  | 0, _ => failNext .expectedValue
  | fuel + 1, first => do
    match ← peekToken with
    | none => failNext .eofInList
    | some ']' => skip
    | some c =>
      if first then
        skipAny fuel
        skipItems fuel false
      else if c = ',' then
        skip
        skipAny fuel
        skipItems fuel false
      else failNext .expectedListCommaOrEnd

/-- Pass the members of an object and its end. -/
def skipMembers : (fuel : Nat) → (first : Bool) → Reader Unit
  | 0, _ => failNext .expectedValue
  | fuel + 1, first => do
    match ← peekToken with
    | none => failNext .eofInObject
    | some '\x7d' => skip
    | some c =>
      if first then skipMember fuel
      else if c = ',' then
        skip
        skipMember fuel
      else failNext .expectedObjectCommaOrEnd

/-- Pass one member and what follows it. -/
def skipMember : (fuel : Nat) → Reader Unit
  | 0 => failNext .expectedValue
  | fuel + 1 => do
    match ← peekToken with
    | some '"' =>
      skip
      discard (stringRest false)
      match ← peekToken with
      | some ':' =>
        skip
        skipAny fuel
        skipMembers fuel false
      | some _ => failNext .expectedColon
      | none => failNext .eofInObject
    | some _ => failNext .keyMustBeString
    | none => failNext .eofInObject

end

/-- Pass a value that nobody asked for. -/
def skipValue : Reader Unit := do
  skipAny (3 * (← loopBound))

/-- Nothing but blanks may follow. -/
def endOfText : Reader Unit := do
  if (← peekToken).isSome then failNext .trailingCharacters

/-- Run a reader on a whole text. -/
def runText (r : Reader α) (text : String) : Except Fault α :=
  match (do let a ← r; endOfText; pure a) (Cursor.ofText text.toList) with
  | .ok a _ => .ok a
  | .error e _ => .error e

/-- The value that a whole text spells. -/
def parse (text : String) : Except Fault Json :=
  runText anyValue text

end TraceCheck.Json
