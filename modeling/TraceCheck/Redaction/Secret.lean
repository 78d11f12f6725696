import TraceCheck.Redaction.Shape
import TraceCheck.Text.Blank
import TraceCheck.Unicode.Word

/-!
# Shapes of secrets

Credentials and personal data as they appear in a text: key blocks, connection
strings with a password, signed tokens, keys with a known start, assignments to
a credential name, addresses, card and social security numbers.
-/

namespace TraceCheck.Redaction

open TraceCheck.Text TraceCheck.Unicode

/-- What is left of a text behind its first characters. -/
structure Remainder where
  /-- The number of the characters in front. -/
  passed : Nat
  rest : List Char

namespace Remainder

/-- Nothing of a text is passed yet. -/
def whole (cs : List Char) : Remainder := ⟨0, cs⟩

/-- Pass a fixed beginning. -/
def after? : (beginning : List Char) → Remainder → Option Remainder
  | [], r => some r
  | b :: bs, ⟨n, c :: cs⟩ => if b = c then after? bs ⟨n + 1, cs⟩ else none
  | _ :: _, ⟨_, []⟩ => none

/-- Pass a word in small letters, in whatever case it is written. `fold` gives the small
letter of a character. -/
def afterFolded? (fold : Char → Char) : (word : List Char) → Remainder → Option Remainder
  | [], r => some r
  | w :: ws, ⟨n, c :: cs⟩ => if w = fold c then afterFolded? fold ws ⟨n + 1, cs⟩ else none
  | _ :: _, ⟨_, []⟩ => none

/-- Pass all characters of a class. -/
def passWhile (p : Char → Bool) : Nat → List Char → Remainder
  | n, [] => ⟨n, []⟩
  | n, c :: cs => if p c then passWhile p (n + 1) cs else ⟨n, c :: cs⟩

/-- Pass all characters of a class at the start. -/
def afterWhile (r : Remainder) (p : Char → Bool) : Remainder :=
  passWhile p r.passed r.rest

/-- Pass all characters of a class at the start, of which there must be at least `least`. -/
def afterRun? (r : Remainder) (p : Char → Bool) (least : Nat) : Option Remainder :=
  let r' := r.afterWhile p
  if r.passed + least ≤ r'.passed then some r' else none

/-- A hit up to what is left, or a miss. -/
def probe : Option Remainder → Probe
  | some r => .hit r.passed
  | none => .miss 1

end Remainder

/-- Whether a place after `before` can begin a word. -/
def startsWord (before : Option Char) : Bool :=
  before.all fun c => !isWord c

/-- Whether a word may end in front of the text. -/
def endsWord (rest : List Char) : Bool :=
  rest.head?.all fun c => !isWord c

/-- ASCII letters. -/
def isLetter (c : Char) : Bool := c.isAlpha

/-- ASCII letters and digits. -/
def isAlphanumeric (c : Char) : Bool := c.isAlphanum

/-- The characters of either case that fold to ASCII letters. -/
def isFoldedLetter (c : Char) : Bool :=
  c.isAlpha || c == '\u017f' || c == '\u212a'

/-- The small ASCII letter that a character folds to, else the character. -/
def foldChar (c : Char) : Char :=
  if c = '\u017f' then 's' else if c = '\u212a' then 'k' else c.toLower

/-! ## Key blocks -/

/-- The capitals and blanks in the title of a key line. -/
def isTitleChar (c : Char) : Bool :=
  ('A' ≤ c && c ≤ 'Z') || c == ' '

/-- Pass a line `-----BEGIN … PRIVATE KEY-----`, or `END`. -/
def afterKeyLine? (word : String) (r : Remainder) : Option Remainder := do
  let r ← r.after? ("-----" ++ word ++ " ").toList
  let title := r.rest.takeWhile isTitleChar
  if title.reverse.take 11 = "PRIVATE KEY".toList.reverse then
    (r.afterWhile isTitleChar).after? "-----".toList
  else none

/-- Pass everything up to the first end line and this line. -/
def afterKeyBlock? : Nat → List Char → Option Remainder
  | n, [] => afterKeyLine? "END" ⟨n, []⟩
  | n, c :: rest => (afterKeyLine? "END" ⟨n, c :: rest⟩).or (afterKeyBlock? (n + 1) rest)

/-- A private key from its begin line to the next end line. When no end line follows a
begin line, none follows a later one. -/
def privateKey : Shape := fun _ cs =>
  match afterKeyLine? "BEGIN" (.whole cs) with
  | none => .miss 1
  | some r =>
    match afterKeyBlock? r.passed r.rest with
    | some r' => .hit r'.passed
    | none => .miss cs.length

/-! ## Connection strings -/

/-- The characters of the scheme of an address. -/
def isSchemeChar (c : Char) : Bool :=
  isAlphanumeric c || c == '+' || c == '.' || c == '-'

/-- The characters of a password in an address. -/
def isPasswordChar (c : Char) : Bool :=
  !(isBlank c || c == '@')

/-- Pass `://user:`. -/
def afterUser? (r : Remainder) : Option Remainder := do
  let r ← r.after? "://".toList
  let r ← r.afterRun? (fun c => !(isBlank c || c == ':' || c == '/' || c == '@')) 1
  r.after? [':']

/-- Pass `@host`. -/
def afterHost? (r : Remainder) : Option Remainder := do
  let r ← r.after? ['@']
  r.afterRun? (fun c => !(isBlank c || c == '\'' || c == '"')) 1

/-- An address with a user and a password. No other letter of the same scheme can
begin one when the first cannot, and no place before the end of the password can begin
one when no host follows it. -/
def connectionString : Shape := fun _ cs =>
  if cs.head?.any isLetter then
    let scheme := (Remainder.whole cs).afterWhile isSchemeChar
    match afterUser? scheme with
    | none => .miss scheme.passed
    | some user =>
      let password := user.afterWhile isPasswordChar
      match afterHost? password with
      | none => .miss password.passed
      | some host =>
        if user.passed < password.passed then .hit host.passed else .miss password.passed
  else .miss 1

/-! ## Tokens and keys -/

/-- The characters of the parts of a signed token. -/
def isTokenChar (c : Char) : Bool :=
  isAlphanumeric c || c == '_' || c == '-'

/-- Pass the second and third part of a signed token with the points before them. -/
def afterPayload? (r : Remainder) : Option Remainder := do
  let r ← r.after? ['.']
  let r ← r.afterRun? isTokenChar 1
  let r ← r.after? ['.']
  r.afterRun? isTokenChar 1

/-- A signed token: three parts between points, the first beginning `eyJ`. -/
def signedToken : Shape := fun _ cs =>
  match (Remainder.whole cs).after? "eyJ".toList with
  | none => .miss 1
  | some r =>
    let r := r.afterWhile isTokenChar
    match afterPayload? r with
    | some r' => if r.passed = 3 then .miss 3 else .hit r'.passed
    | none => .miss r.passed

/-- The beginnings of service keys. -/
def apiKeyStarts : List String :=
  ["sk_live_", "sk_test_", "pk_live_", "pk_test_", "rk_live_", "rk_test_"]

/-- A service key with a known beginning. -/
def apiKey : Shape := fun _ cs =>
  Remainder.probe do
    let r ← apiKeyStarts.findSome? fun start => (Remainder.whole cs).after? start.toList
    r.afterRun? isAlphanumeric 1

/-- A cloud access key: a known beginning and sixteen capitals or digits. -/
def cloudKey : Shape := fun before cs =>
  Remainder.probe do
    let r ← ["AKIA", "ASIA"].findSome? fun start => (Remainder.whole cs).after? start.toList
    let body := r.rest.take 16
    let r : Remainder := ⟨r.passed + 16, r.rest.drop 16⟩
    if startsWord before && body.length = 16 &&
        body.all (fun c => c.isDigit || c.isUpper) && endsWord r.rest then some r
    else none

/-- The characters of a bearer token. -/
def isBearerChar (c : Char) : Bool :=
  isFoldedLetter c || c.isDigit || c == '.' || c == '_' || c == '~' || c == '+' ||
    c == '/' || c == '=' || c == '-'

/-- The word `bearer` with its token. -/
def bearerToken : Shape := fun before cs =>
  Remainder.probe do
    let r ← (Remainder.whole cs).afterFolded? foldChar "bearer".toList
    let r ← r.afterRun? isBlank 1
    let r ← r.afterRun? isBearerChar 8
    if startsWord before then some r else none

/-! ## Assigned credentials -/

/-- The names of credentials. -/
def credentialNames : List String :=
  ["password", "passwd", "pwd", "secret", "token", "api_key", "api-key", "apikey"]

/-- Pass the name of a credential and the sign that assigns it. -/
def afterAssignment? (r : Remainder) : Option Remainder := do
  let r ← credentialNames.findSome? fun name => r.afterFolded? foldChar name.toList
  match r.afterWhile isBlank with
  | ⟨n, c :: rest⟩ =>
    if c = '=' ∨ c = ':' then some ((⟨n + 1, rest⟩ : Remainder).afterWhile isBlank) else none
  | ⟨_, []⟩ => none

/-- The characters of an assigned value. -/
def isValueChar (c : Char) : Bool :=
  !(isBlank c || c == ',' || c == ';' || c == '\'' || c == '"')

/-- A credential with its value. -/
def credential : Shape := fun before cs =>
  Remainder.probe do
    let r ← afterAssignment? (.whole cs)
    let r ← r.afterRun? isValueChar 1
    if startsWord before then some r else none

/-- The part of an assigned credential in front of the value. -/
def credentialName (cs : List Char) : List Char :=
  match afterAssignment? (.whole cs) with
  | some r => cs.take r.passed
  | none => []

/-! ## Addresses -/

/-- The characters of the name of a mailbox. -/
def isMailboxChar (c : Char) : Bool :=
  isFoldedLetter c || c.isDigit || c == '.' || c == '_' || c == '%' || c == '+' || c == '-'

/-- The characters of the domain of a mailbox. -/
def isDomainChar (c : Char) : Bool :=
  isFoldedLetter c || c.isDigit || c == '.' || c == '-'

/-- The length of the longest part of a domain that ends in a point and at least
two letters; the domain follows `offset` characters that belong to it. -/
def domainLength? (offset : Nat) : List Char → Option Nat
  | [] => none
  | c :: rest =>
    match domainLength? (offset + 1) rest with
    | some n => some n
    | none =>
      if offset ≠ 0 ∧ c = '.' then
        ((⟨offset + 1, rest⟩ : Remainder).afterRun? isFoldedLetter 2).map (·.passed)
      else none

/-- A mail address. No other place in the name of a mailbox can begin one when
the first cannot. -/
def mailAddress : Shape := fun _ cs =>
  let r := (Remainder.whole cs).afterWhile isMailboxChar
  if r.passed = 0 then .miss 1
  else
    match r.rest with
    | '@' :: rest =>
      match domainLength? 0 (rest.takeWhile isDomainChar) with
      | some n => .hit (r.passed + 1 + n)
      | none => .miss r.passed
    | _ => .miss r.passed

/-! ## Numbers -/

/-- The greatest length of a card number that begins here and ends at a word's
end. `digits` of them have been read over `length` characters, `best` is the
length of the best so far; one blank or dash may stand between two digits. -/
def cardLength? (digits length : Nat) (best : Option Nat) : List Char → Option Nat
  | [] => best
  | c :: rest =>
    if isDecimalDigit c && digits < 19 then
      let best := if 13 ≤ digits + 1 && endsWord rest then some (length + 1) else best
      match rest with
      | s :: rest' =>
        if s = ' ' ∨ s = '-' then cardLength? (digits + 1) (length + 2) best rest'
        else cardLength? (digits + 1) (length + 1) best (s :: rest')
      | [] => best
    else best
termination_by cs => cs.length

/-- Thirteen to nineteen digits in groups. -/
def cardNumber : Shape := fun before cs =>
  if startsWord before then
    match cardLength? 0 0 none cs with
    | some n => .hit n
    | none => .miss 1
  else .miss 1

/-- The sum of the digits of a card number, read from the last one: every second
digit counts double, less nine when it exceeds nine. -/
def luhnSum (digits : List Nat) : Nat :=
  digits.reverse.zipIdx.foldl (fun sum (d, i) =>
    sum + if i % 2 = 1 then (if 9 < d * 2 then d * 2 - 9 else d * 2) else d) 0

/-- Whether the ASCII digits of a text are a card number. -/
def isCard (cs : List Char) : Bool :=
  let digits := (cs.filter Char.isDigit).map fun c => c.toNat - 48
  13 ≤ digits.length && digits.length ≤ 19 && luhnSum digits % 10 == 0

/-- Pass a number of decimal digits. -/
def afterDigits? : (count : Nat) → Remainder → Option Remainder
  | 0, r => some r
  | count + 1, ⟨n, c :: cs⟩ => if isDecimalDigit c then afterDigits? count ⟨n + 1, cs⟩ else none
  | _ + 1, ⟨_, []⟩ => none

/-- A social security number: three, two and four digits. -/
def socialSecurityNumber : Shape := fun before cs =>
  Remainder.probe do
    let r ← afterDigits? 3 (.whole cs)
    let r ← r.after? ['-']
    let r ← afterDigits? 2 r
    let r ← r.after? ['-']
    let r ← afterDigits? 4 r
    if startsWord before && endsWord r.rest then some r else none

end TraceCheck.Redaction
