import TraceCheck.Text.Hex
import TraceCheck.Yaml.Cursor

/-!
# Scalars as written

A scalar is written plain, between quotes, or as a block of indented lines. Plain and
quoted scalars fold breaks: a single one becomes a space, and further ones are kept.
Each function takes a scalar off the text and gives its content.
-/

namespace TraceCheck.Yaml

open TraceCheck.Text

/-- How a scalar is written. -/
inductive ScalarStyle where
  | plain
  | singleQuoted
  | doubleQuoted
  | literal
  | folded
  deriving DecidableEq, Repr

/-! ## Folding -/

/-- Blanks and breaks between two pieces of a scalar. -/
structure Gap where
  /-- The blanks before the first break, last one first. -/
  blanks : List Char := []
  /-- The first break. -/
  first : Option Char := none
  /-- The further breaks, last one first. -/
  more : List Char := []

/-- Whether there is a break in the gap. -/
def Gap.isBroken (g : Gap) : Bool :=
  g.first.isSome

/-- What a gap contributes to the scalar, last character first. -/
def Gap.folded (g : Gap) : List Char :=
  match g.first with
  | none => g.blanks
  | some '\n' => if g.more.isEmpty then [' '] else g.more
  | some c => g.more ++ [c]

/-- Take blanks and breaks off the text. `allowed` says whether a blank may stand at
a place behind a break. -/
def gap (allowed : Cursor → Except SyntaxError Unit) :
    (fuel : Nat) → Gap → Cursor → Except SyntaxError (Gap × Cursor)
  | 0, g, s => .ok (g, s)
  | fuel + 1, g, s =>
    match s.rest with
    | [] => .ok (g, s)
    | c :: _ =>
      if isBlank c then
        if g.isBroken then do
          allowed s
          gap allowed fuel g (s.pass 1)
        else gap allowed fuel { g with blanks := c :: g.blanks } (s.pass 1)
      else
        match lineBreak? s.rest with
        | none => .ok (g, s)
        | some (b, _) =>
          if g.isBroken then gap allowed fuel { g with more := b :: g.more } s.passBreak
          else gap allowed fuel { g with blanks := [], first := some b } s.passBreak

/-! ## Plain scalars -/

/-- Whether a plain scalar ends in front of a text. -/
def endsPlain (inFlow : Bool) : List Char → Bool
  | [] => true
  | c :: rest =>
    atGap [c] || (c == ':' && atGap rest) ||
      (inFlow && (c == ',' || c == '[' || c == ']' || c == '\x7b' || c == '\x7d'))

/-- Whether a colon stands in front of a mark that it must not touch. -/
def isStrayColon : List Char → Bool
  | ':' :: c :: _ =>
    c == ',' || c == '?' || c == '[' || c == ']' || c == '\x7b' || c == '\x7d'
  | _ => false

/-- The characters of a plain scalar up to a gap or its end, added in reverse. -/
def plainRun (inFlow : Bool) (start : Place) :
    (fuel : Nat) → (read : List Char) → Cursor → Except SyntaxError (List Char × Cursor)
  | 0, read, s => .ok (read, s)
  | fuel + 1, read, s =>
    if atGap s.rest then .ok (read, s)
    else if inFlow && isStrayColon s.rest then
      .error (s.errorIn "while scanning a plain scalar" start "found unexpected ':'")
    else if endsPlain inFlow s.rest then .ok (read, s)
    else
      match s.rest with
      | [] => .ok (read, s)
      | c :: _ => plainRun inFlow start fuel (c :: read) (s.pass 1)

/-- What reading a scalar yields: its content, where reading goes on, and whether a
line break was passed last. -/
structure Scanned where
  content : List Char
  cursor : Cursor
  brokeLine : Bool := false

/-- The rest of a plain scalar whose lines are indented by at least `least` blanks.
`g` is the gap before the place. -/
def plainRest (inFlow : Bool) (least : Nat) (start : Place) :
    (fuel : Nat) → (read : List Char) → Gap → Cursor → Except SyntaxError Scanned
  | 0, read, g, s => .ok ⟨read.reverse, s, g.isBroken⟩
  | fuel + 1, read, g, s => do
    if s.atDocumentMark || s.rest.head? = some '#' then
      return ⟨read.reverse, s, g.isBroken⟩
    let (piece, s) ← plainRun inFlow start s.loopBound [] s
    let (read, g) := if piece.isEmpty then (read, g) else (piece ++ g.folded ++ read, {})
    if s.rest.isEmpty ∨ !atGap s.rest then return ⟨read.reverse, s, g.isBroken⟩
    let allowed (s : Cursor) : Except SyntaxError Unit :=
      if s.place.column < least ∧ s.rest.head? = some '\t' then
        .error (s.errorIn "while scanning a plain scalar" start
          "found a tab character that violates indentation")
      else .ok ()
    let (g, s) ← gap allowed s.loopBound g s
    if !inFlow ∧ s.place.column < least then return ⟨read.reverse, s, g.isBroken⟩
    plainRest inFlow least start fuel read g s

/-- A plain scalar. -/
def plainScalar (inFlow : Bool) (least : Nat) (s : Cursor) : Except SyntaxError Scanned :=
  plainRest inFlow least s.place s.loopBound [] {} s

/-! ## Quoted scalars -/

/-- The character of a one-letter escape. -/
def simpleEscape? : Char → Option Char
  | '0' => some '\x00'
  | 'a' => some '\x07'
  | 'b' => some '\x08'
  | 't' => some '\t'
  | '\t' => some '\t'
  | 'n' => some '\n'
  | 'v' => some '\x0b'
  | 'f' => some '\x0c'
  | 'r' => some '\r'
  | 'e' => some '\x1b'
  | ' ' => some ' '
  | '"' => some '"'
  | '/' => some '/'
  | '\\' => some '\\'
  | 'N' => some '\u0085'
  | '_' => some '\u00a0'
  | 'L' => some '\u2028'
  | 'P' => some '\u2029'
  | _ => none

/-- The number of digits of an escape by code. -/
def codeEscape? : Char → Option Nat
  | 'x' => some 2
  | 'u' => some 4
  | 'U' => some 8
  | _ => none

/-- The character of the escape at the place, whose letter, if there is one, follows the
backslash. -/
def escapeSequence (start : Place) (letter : Option Char) (s : Cursor) :
    Except SyntaxError (Char × Cursor) :=
  let fail (s : Cursor) (problem : String) : Except SyntaxError (Char × Cursor) :=
    .error (s.errorIn "while parsing a quoted scalar" start problem)
  match letter.bind simpleEscape?, letter.bind codeEscape? with
  | some c, _ => .ok (c, s.pass 2)
  | none, some width =>
    let s := s.pass 2
    let digits := s.rest.take width
    match if digits.length = width then hexNumber? digits else none with
    | none => fail s "did not find expected hexdecimal number"
    | some n =>
      if h : n.isValidChar then .ok (Char.ofNatAux n h, s.pass width)
      else fail s "found invalid Unicode character escape code"
  | none, none => fail s "found unknown escape character"

/-- The characters between quotes up to a gap or the closing quote, added in reverse,
and whether they end with an escaped break. -/
def quotedRun (single : Bool) (start : Place) :
    (fuel : Nat) → (read : List Char) → Cursor →
    Except SyntaxError (List Char × Cursor × Bool)
  | 0, read, s => .ok (read, s, false)
  | fuel + 1, read, s =>
    if atGap s.rest then .ok (read, s, false)
    else
      match single, s.rest with
      | true, '\'' :: '\'' :: _ => quotedRun single start fuel ('\'' :: read) (s.pass 2)
      | true, '\'' :: _ => .ok (read, s, false)
      | false, '"' :: _ => .ok (read, s, false)
      | false, '\\' :: rest =>
        if (lineBreak? rest).isSome then .ok (read, (s.pass 1).passBreak, true)
        else do
          let (c, s) ← escapeSequence start rest.head? s
          quotedRun single start fuel (c :: read) s
      | _, c :: _ => quotedRun single start fuel (c :: read) (s.pass 1)
      | _, [] => .ok (read, s, false)

/-- The rest of a quoted scalar behind its opening quote. -/
def quotedRest (single : Bool) (start : Place) :
    (fuel : Nat) → (read : List Char) → Cursor → Except SyntaxError Scanned
  | 0, read, s => .ok ⟨read.reverse, s, false⟩
  | fuel + 1, read, s => do
    let what := "while scanning a quoted scalar"
    if s.atDocumentMark then
      throw (s.errorIn what start "found unexpected document indicator")
    if s.rest.isEmpty then throw (s.errorIn what start "found unexpected end of stream")
    let (read, s, escapedBreak) ← quotedRun single start s.loopBound read s
    if s.rest.head? = some (if single then '\'' else '"') then
      return ⟨read.reverse, s.pass 1, false⟩
    -- behind an escaped break, blanks are dropped and every break is kept
    let g : Gap := if escapedBreak then { first := some '\x00' } else {}
    let (g, s) ← gap (fun _ => .ok ()) s.loopBound g s
    let added := if escapedBreak then g.more else g.folded
    quotedRest single start fuel (added ++ read) s

/-- A quoted scalar. -/
def quotedScalar (single : Bool) (s : Cursor) : Except SyntaxError Scanned :=
  quotedRest single s.place s.loopBound [] (s.pass 1)

/-! ## Block scalars -/

/-- What happens to the breaks at the end of a block. -/
inductive Chomping where
  | strip
  | clip
  | keep
  deriving DecidableEq, Repr

/-- The header of a block behind its first character: what to do with the last
breaks, and the indentation if it is given. -/
def blockHeader (start : Place) (s : Cursor) :
    Except SyntaxError (Chomping × Option Nat × Cursor) := do
  let chomping? (c : Option Char) : Option Chomping :=
    if c = some '+' then some .keep else if c = some '-' then some .strip else none
  let digit? (s : Cursor) : Except SyntaxError (Option Nat × Cursor) :=
    match s.rest with
    | c :: _ =>
      if c = '0' then
        .error (s.errorIn "while scanning a block scalar" start
          "found an indentation indicator equal to 0")
      else if c.isDigit then .ok (some (c.toNat - 48), s.pass 1)
      else .ok (none, s)
    | [] => .ok (none, s)
  let (chomping, increment, s) ←
    match chomping? s.rest.head? with
    | some c => do
      let (n, s) ← digit? (s.pass 1)
      pure (c, n, s)
    | none => do
      let (n, s) ← digit? s
      match n, chomping? s.rest.head? with
      | some _, some c => pure (c, n, s.pass 1)
      | _, _ => pure (.clip, n, s)
  let s := s.passComment
  if !atLineEnd s.rest then
    throw (s.errorIn "while scanning a block scalar" start
      "did not find expected comment or line break")
  return (chomping, increment, s.passBreak)

/-- Take indentation and empty lines off the text. `indent` is the indentation, if it
is known; otherwise the widest indentation met counts. -/
def blockBreaks (start : Place) (indent : Option Nat) :
    (fuel : Nat) → (widest : Nat) → (breaks : List Char) → Cursor →
    Except SyntaxError (Nat × List Char × Cursor)
  | 0, widest, breaks, s => .ok (widest, breaks, s)
  | fuel + 1, widest, breaks, s =>
    let spaces := (s.run (· == ' ')).length
    let s := match indent with
      | none => s.pass spaces
      | some n => s.pass (min spaces (n - s.place.column))
    let widest := max widest s.place.column
    let isIndentation := match indent with
      | none => true
      | some n => decide (s.place.column < n)
    if isIndentation && s.rest.head? == some '\t' then
      .error (s.errorIn "while scanning a block scalar" start
        "found a tab character where an indentation space is expected")
    else
      match lineBreak? s.rest with
      | none => .ok (widest, breaks, s)
      | some (b, _) => blockBreaks start indent fuel widest (b :: breaks) s.passBreak

/-- The lines of a block. `leading` is the break behind the last line, `breaks` holds
the empty lines behind it, last one first, and `wasBlank` says whether the last line
began with a blank. -/
def blockLines (folds : Bool) (start : Place) (indent : Nat) :
    (fuel : Nat) → (read : List Char) → (leading : Option Char) → (breaks : List Char) →
    (wasBlank : Bool) → Cursor →
    Except SyntaxError (List Char × Option Char × List Char × Cursor)
  | 0, read, leading, breaks, _, s => .ok (read, leading, breaks, s)
  | fuel + 1, read, leading, breaks, wasBlank, s =>
    if s.place.column ≠ indent ∨ s.rest.isEmpty then .ok (read, leading, breaks, s)
    else do
      let beginsBlank := s.rest.head?.any isBlank
      let joined :=
        if folds && leading == some '\n' && !wasBlank && !beginsBlank then
          if breaks.isEmpty then [' '] else []
        else leading.toList
      let line := s.run fun c => !isBreak c
      let s := s.pass line.length
      let next := (lineBreak? s.rest).map (·.1)
      let s := s.passBreak
      let (_, more, s) ← blockBreaks start (some indent) s.loopBound 0 [] s
      blockLines folds start indent fuel (line.reverse ++ breaks ++ joined ++ read) next more
        beginsBlank s

/-- A block scalar in a collection indented by `parent`, which is negative outside
of all collections. -/
def blockScalar (folds : Bool) (parent : Int) (s : Cursor) : Except SyntaxError Scanned := do
  let start := s.place
  let (chomping, increment, s) ← blockHeader start (s.pass 1)
  let given := increment.map fun n => if 0 ≤ parent then parent.toNat + n else n
  let (widest, breaks, s) ← blockBreaks start given s.loopBound 0 [] s
  let indent := given.getD (max (max widest (parent + 1).toNat) 1)
  let (read, leading, breaks, s) ←
    blockLines folds start indent s.loopBound [] none breaks false s
  let ending := match chomping with
    | .strip => []
    | .clip => leading.toList
    | .keep => breaks ++ leading.toList
  return ⟨(ending ++ read).reverse, s, false⟩

end TraceCheck.Yaml
