import TraceCheck.Text.Blank
import TraceCheck.Yaml.Token

/-!
# From YAML text to tokens

`tokenize` cuts a text into tokens. A token is final when no key can start in front of
it any more; if the text cannot be cut to its end, the tokens that were final before
the error come with it.
-/

namespace TraceCheck.Yaml

open TraceCheck.Text

namespace Lexing

/-- A step of cutting a text. -/
abbrev Step := Lexing → Except SyntaxError Lexing

/-- The blanks that may stand in front of a token: tabs only where no key can start. -/
def isSkippable (s : Lexing) (c : Char) : Bool :=
  c == ' ' || ((s.inFlow || !s.keyAllowed) && c == '\t')

/-- Pass blanks, comments and breaks up to the next token. Outside of brackets a key
may start in a new line. -/
def skipToToken : (fuel : Nat) → Lexing → Lexing
  | 0, s => s
  | fuel + 1, s =>
    let c := s.cursor
    let c := if c.place.index = 0 ∧ c.rest.head? = some '\ufeff' then c.pass 1 else c
    let c := c.passRun s.isSkippable
    let c := if c.rest.head? = some '#' then c.passRun (fun c => !isBreak c) else c
    if (lineBreak? c.rest).isSome then
      skipToToken fuel
        { s with cursor := c.passBreak, keyAllowed := s.keyAllowed || !s.inFlow }
    else { s with cursor := c }

/-! ## Marks -/

/-- The end of the text. -/
def endOfText : Step := fun s => do
  let p := s.cursor.place
  let p := if p.column = 0 then p else { p with column := 0, line := p.line + 1 }
  let s := { s with cursor := { s.cursor with place := p } }
  let s ← (s.unroll (-1)).dropKey
  return { s with keyAllowed := false }.add .streamEnd p p

/-- The start or the end of a document. -/
def documentMark (t : Token) : Step := fun s => do
  let s ← (s.unroll (-1)).dropKey
  return { s with keyAllowed := false }.addPassing t 3

/-- An opening bracket. -/
def openBracket (t : Token) : Step := fun s => do
  let s ← s.noteKey
  return { s with keys := none :: s.keys, keyAllowed := true }.addPassing t 1

/-- A closing bracket. -/
def closeBracket (t : Token) : Step := fun s => do
  let s ← s.dropKey
  let keys := if s.inFlow then s.keys.tail else s.keys
  return { s with keys, keyAllowed := false }.addPassing t 1

/-- A comma. -/
def comma : Step := fun s => do
  let s ← s.dropKey
  return { s with keyAllowed := true }.addPassing .flowEntry 1

/-- A dash in front of an item. -/
def dash : Step := fun s => do
  if !s.inFlow ∧ !s.keyAllowed then
    throw (s.cursor.error "block sequence entries are not allowed in this context")
  let s := s.roll s.cursor.place.column s.count .blockSequenceStart s.cursor.place
  let s ← s.dropKey
  return { s with keyAllowed := true }.addPassing .blockEntry 1

/-- A question mark in front of a key. -/
def keyMark : Step := fun s => do
  if !s.inFlow ∧ !s.keyAllowed then
    throw (s.cursor.error "mapping keys are not allowed in this context")
  let s := s.roll s.cursor.place.column s.count .blockMappingStart s.cursor.place
  let s ← s.dropKey
  return { s with keyAllowed := !s.inFlow }.addPassing .key 1

/-- A colon in front of a value. If a key may start before it, that place gets the
mark of a key. -/
def colon : Step := fun s => do
  match s.keys with
  | some k :: rest =>
    let s := s.insert k.token .key k.place
    let s := s.roll k.place.column k.token .blockMappingStart k.place
    return { s with keys := none :: rest, keyAllowed := false }.addPassing .value 1
  | _ =>
    if !s.inFlow ∧ !s.keyAllowed then
      throw (s.cursor.error "mapping values are not allowed in this context")
    let s := s.roll s.cursor.place.column s.count .blockMappingStart s.cursor.place
    return { s with keyAllowed := !s.inFlow }.addPassing .value 1

/-! ## Anchors, tags and directives -/

/-- Whether an anchor ends in front of a text. -/
def endsAnchor (cs : List Char) : Bool :=
  atGap cs || cs.head?.any fun c =>
    ['?', ':', ',', ']', '\x7d', '%', '@', '\x60'].contains c

/-- The name of an anchor, or a mention of it. -/
def anchor (what : String) (t : String → Token) : Step := fun s => do
  let s ← s.noteKey
  let start := s.cursor.place
  let cursor := s.cursor.pass 1
  let name := cursor.run isNameChar
  let cursor := cursor.pass name.length
  if name.isEmpty ∨ !endsAnchor cursor.rest then
    throw (cursor.errorIn what start "did not find expected alphabetic or numeric character")
  return { s with cursor, keyAllowed := false }.add (t (String.ofList name)) start cursor.place

/-- The characters of the name of a tag. -/
def isTagChar (verbatim : Bool) (c : Char) : Bool :=
  isNameChar c ||
    [';', '/', '?', ':', '@', '&', '=', '+', '$', '.', '%', '!', '~', '*', '\'', '(', ')'].contains c ||
    (verbatim && [',', '[', ']'].contains c)

/-- The number of bytes of a character by its first byte. -/
def encodedLength? (byte : Nat) : Option Nat :=
  if byte < 0x80 then some 1
  else if byte / 0x20 = 6 then some 2
  else if byte / 0x10 = 14 then some 3
  else if byte / 0x08 = 30 then some 4
  else none

/-- The escaped bytes of one character. `count` is the number of bytes that are still
to come, if it is known. -/
def tagEscape (what : String) (start : Place) :
    (fuel : Nat) → (count : Option Nat) → (bytes : List UInt8) → Cursor →
    Except SyntaxError (List UInt8 × Cursor)
  | 0, _, bytes, s => .ok (bytes.reverse, s)
  | fuel + 1, count, bytes, s =>
    match s.rest with
    | '%' :: a :: b :: _ =>
      match hexNumber? [a, b], count with
      | some n, none =>
        match encodedLength? n with
        | some (k + 1) =>
          if k = 0 then .ok ([UInt8.ofNat n], s.pass 3)
          else tagEscape what start fuel (some k) [UInt8.ofNat n] (s.pass 3)
        | _ => .error (s.errorIn what start "found an incorrect leading UTF-8 octet")
      | some n, some k =>
        if n / 0x40 ≠ 2 then
          .error (s.errorIn what start "found an incorrect trailing UTF-8 octet")
        else if k ≤ 1 then .ok ((UInt8.ofNat n :: bytes).reverse, s.pass 3)
        else tagEscape what start fuel (some (k - 1)) (UInt8.ofNat n :: bytes) (s.pass 3)
      | none, _ => .error (s.errorIn what start "did not find URI escaped octet")
    | _ => .error (s.errorIn what start "did not find URI escaped octet")

/-- The name of a tag, added in reverse. -/
def tagName (verbatim : Bool) (what : String) (start : Place) :
    (fuel : Nat) → (read : List Char) → Cursor → Except SyntaxError (List Char × Cursor)
  | 0, read, s => .ok (read.reverse, s)
  | fuel + 1, read, s =>
    match s.rest with
    | [] => .ok (read.reverse, s)
    | c :: _ =>
      if c = '%' then do
        let (bytes, s) ← tagEscape what start 4 none [] s
        let cs := ((String.fromUTF8? ⟨bytes.toArray⟩).map String.toList).getD []
        tagName verbatim what start fuel (cs.reverse ++ read) s
      else if isTagChar verbatim c then tagName verbatim what start fuel (c :: read) (s.pass 1)
      else .ok (read.reverse, s)

/-- The name of a tag behind some characters read already. It must not be empty. -/
def tagSuffix (verbatim : Bool) (what : String) (start : Place) (read : List Char)
    (s : Cursor) : Except SyntaxError (List Char × Cursor) := do
  let (suffix, s') ← tagName verbatim what start s.loopBound [] s
  if read.isEmpty ∧ suffix.isEmpty then
    throw (s'.errorIn what start "did not find expected tag URI")
  return (read.tail ++ suffix, s')

/-- The handle of a tag: an exclamation mark, and a name between two of them. -/
def tagHandle (s : Cursor) : List Char × Cursor :=
  let s' := s.pass 1
  let name := s'.run isNameChar
  let s' := s'.pass name.length
  if s'.rest.head? = some '!' then ('!' :: name ++ ['!'], s'.pass 1)
  else ('!' :: name, s')

/-- A tag in full, between angle brackets, or with a handle. -/
def tagParts (s : Cursor) : Except SyntaxError (List Char × List Char × Cursor) := do
  let what := "while parsing a tag"
  if s.rest.tail.head? = some '<' then
    let (suffix, s') ← tagSuffix true what s.place [] (s.pass 2)
    if s'.rest.head? ≠ some '>' then
      throw (s'.errorIn "while scanning a tag" s.place "did not find the expected '>'")
    return ([], suffix, s'.pass 1)
  else
    let (handle, s') := tagHandle s
    if 1 < handle.length ∧ handle.getLast? = some '!' then
      let (suffix, s') ← tagSuffix false what s.place [] s'
      return (handle, suffix, s')
    else
      let (suffix, s') ← tagSuffix false what s.place handle s'
      return if suffix.isEmpty then ([], ['!'], s') else (['!'], suffix, s')

/-- A tag. -/
def tag : Step := fun s => do
  let s ← s.noteKey
  let start := s.cursor.place
  let (handle, suffix, cursor) ← tagParts s.cursor
  let ends := atGap cursor.rest || (s.inFlow && cursor.rest.head? == some ',')
  if !ends then
    throw (cursor.errorIn "while scanning a tag" start
      "did not find expected whitespace or line break")
  return { s with cursor, keyAllowed := false }.add
    (.tag (String.ofList handle) (String.ofList suffix)) start cursor.place

/-- A number of a version. -/
def versionNumber (start : Place) (s : Cursor) : Except SyntaxError (Nat × Cursor) :=
  let what := "while scanning a %YAML directive"
  let digits := s.run Char.isDigit
  if digits.isEmpty then .error (s.errorIn what start "did not find expected version number")
  else if 9 < digits.length then
    .error ((s.pass 9).errorIn what start "found extremely long version number")
  else .ok (digits.foldl (fun n c => n * 10 + (c.toNat - 48)) 0, s.pass digits.length)

/-- The version of a document. -/
def versionDirective (start : Place) (s : Cursor) : Except SyntaxError (Token × Cursor) := do
  let (major, s) ← versionNumber start (s.passRun isBlank)
  if s.rest.head? ≠ some '.' then
    throw (s.errorIn "while scanning a %YAML directive" start
      "did not find expected digit or '.' character")
  let (minor, s) ← versionNumber start (s.pass 1)
  return (.version major minor, s)

/-- What the handle of a tag stands for. -/
def tagDirective (start : Place) (s : Cursor) : Except SyntaxError (Token × Cursor) := do
  let what := "while scanning a %TAG directive"
  let s := s.passRun isBlank
  if s.rest.head? ≠ some '!' then
    throw (s.errorIn "while scanning a tag directive" start "did not find expected '!'")
  let (handle, s) := tagHandle s
  if handle ≠ ['!'] ∧ handle.getLast? ≠ some '!' then
    throw (s.errorIn "while parsing a tag directive" start "did not find expected '!'")
  if !s.rest.head?.any isBlank then
    throw (s.errorIn what start "did not find expected whitespace")
  let s := s.passRun isBlank
  let (lead, s) ← tagSuffix true "while parsing a %TAG directive" start [] s
  if !atGap s.rest then
    throw (s.errorIn what start "did not find expected whitespace or line break")
  return (.tagDirective (String.ofList handle) (String.ofList lead), s)

/-- A line with a directive. -/
def directive : Step := fun s => do
  let s ← (s.unroll (-1)).dropKey
  let start := s.cursor.place
  let what := "while scanning a directive"
  let c := s.cursor.pass 1
  let name := c.run isNameChar
  let c := c.pass name.length
  if name.isEmpty then
    throw (c.errorIn what start "could not find expected directive name")
  if !atGap c.rest then
    throw (c.errorIn what start "found unexpected non-alphabetical character")
  let (t, c) ←
    if name = "YAML".toList then versionDirective start c
    else if name = "TAG".toList then tagDirective start c
    else throw (c.errorIn what start "found unknown directive name")
  let stop := c.place
  let c := c.passComment
  if !atLineEnd c.rest then
    throw (c.errorIn what start "did not find expected comment or line break")
  return { s with cursor := c.passBreak, keyAllowed := false }.add t start stop

/-! ## Scalars -/

/-- A scalar that was read. -/
def addScalar (s : Lexing) (style : ScalarStyle) (x : Scanned) : Lexing :=
  let start := s.cursor.place
  { s with cursor := x.cursor }.add (.scalar style (String.ofList x.content)) start x.cursor.place

/-- A block scalar. -/
def block (folds : Bool) : Step := fun s => do
  let s ← s.dropKey
  let x ← blockScalar folds s.indent s.cursor
  return { s with keyAllowed := true }.addScalar (if folds then .folded else .literal) x

/-- A quoted scalar. -/
def quoted (single : Bool) : Step := fun s => do
  let s ← s.noteKey
  let x ← quotedScalar single s.cursor
  return { s with keyAllowed := false }.addScalar
    (if single then .singleQuoted else .doubleQuoted) x

/-- A plain scalar. A key may start behind the break that ends it. -/
def plain : Step := fun s => do
  let s ← s.noteKey
  let x ← plainScalar s.inFlow (s.indent + 1).toNat s.cursor
  return { s with keyAllowed := x.brokeLine }.addScalar .plain x

/-- Whether a plain scalar begins with a character, in front of a text. -/
def beginsPlain (s : Lexing) (c : Char) (rest : List Char) : Bool :=
  let isMark := ['-', '?', ':', ',', '[', ']', '\x7b', '\x7d', '#', '&', '*', '!', '|', '>',
    '\'', '"', '%', '@', '\x60'].contains c
  !(atGap [c] || isMark) || (c == '-' && !rest.head?.any isBlank) ||
    (!s.inFlow && (c == '?' || c == ':') && !atGap rest)

/-! ## The next token -/

/-- The token at the place. -/
def token : Step := fun s =>
  match s.cursor.rest with
  | [] => s.endOfText
  | c :: rest =>
    if s.cursor.place.column = 0 ∧ c = '%' then s.directive
    else if s.cursor.atDocumentMark then
      s.documentMark (if c = '-' then .documentStart else .documentEnd)
    else if c = '[' then s.openBracket .flowSequenceStart
    else if c = '\x7b' then s.openBracket .flowMappingStart
    else if c = ']' then s.closeBracket .flowSequenceEnd
    else if c = '\x7d' then s.closeBracket .flowMappingEnd
    else if c = ',' then s.comma
    else if c = '-' ∧ atGap rest then s.dash
    else if c = '?' ∧ (s.inFlow ∨ atGap rest) then s.keyMark
    else if c = ':' ∧ (s.inFlow ∨ atGap rest) then s.colon
    else if c = '*' then s.anchor "while scanning an alias" .alias
    else if c = '&' then s.anchor "while scanning an anchor" .anchor
    else if c = '!' then s.tag
    else if c = '|' ∧ !s.inFlow then s.block false
    else if c = '>' ∧ !s.inFlow then s.block true
    else if c = '\'' then s.quoted true
    else if c = '"' then s.quoted false
    else if s.beginsPlain c rest then s.plain
    else
      .error (s.cursor.errorIn "while scanning for the next token" s.cursor.place
        "found character that cannot start any token")

/-- Pass what stands in front of the next token, close collections that end there,
and read it. -/
def next : Step := fun s => do
  let s ← (s.skipToToken s.cursor.loopBound).dropStaleKeys
  (s.unroll s.cursor.place.column).token

/-- The number of tokens that no key can be put in front of. -/
def finalCount (s : Lexing) : Nat :=
  (s.keys.filterMap fun k => k.map (·.token)).foldl min s.count

/-- The tokens that no key can be put in front of. -/
def finalTokens (s : Lexing) : List Located :=
  (s.read.drop (s.count - s.finalCount)).reverse

/-- Whether the whole text has been read. -/
def isComplete (s : Lexing) : Bool :=
  s.read.head?.any (·.token == .streamEnd)

/-- Read tokens to the end of the text. -/
def run : (fuel : Nat) → Lexing → List Located × Option SyntaxError
  | 0, s => (s.read.reverse, none)
  | fuel + 1, s =>
    match s.next.bind dropStaleKeys with
    | .error e => (s.finalTokens, some e)
    | .ok s => if s.isComplete then (s.read.reverse, none) else run fuel s

end Lexing

/-- The characters that a text may hold. -/
def isPrintable (c : Char) : Bool :=
  let n := c.toNat
  n == 0x09 || n == 0x0A || n == 0x0D || (0x20 ≤ n && n ≤ 0x7E) || n == 0x85 ||
    (0xA0 ≤ n && n ≤ 0xD7FF) || (0xE000 ≤ n && n ≤ 0xFFFD) || 0x10000 ≤ n

/-- What is wrong with a character that a text may not hold. -/
def unprintable : String := "control characters are not allowed"

/-- The error about the first character that a text may not hold. -/
def unprintable? (cs : List Char) : Option SyntaxError :=
  let before := cs.takeWhile isPrintable
  if before.length = cs.length then none else some (.atByte unprintable (byteSize before))

/-- The tokens of a text, and the error that ends them early. -/
def tokenize (text : String) : List Located × Option SyntaxError :=
  let cs := text.toList
  match unprintable? cs with
  | some e => ([], some e)
  | none =>
    let cs := if cs.head? = some '\ufeff' then cs.tail else cs
    Lexing.run (cs.length + 2) (.ofText cs)

end TraceCheck.Yaml
