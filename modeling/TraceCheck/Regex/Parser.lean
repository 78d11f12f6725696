import TraceCheck.Regex.Syntax
import TraceCheck.Text.Blank
import TraceCheck.Text.Hex
import TraceCheck.Unicode.Binary
import TraceCheck.Unicode.GeneralCategory

/-!
# Reading regular expressions

`Regex.parse` reads the text of a regular expression from left to right; the
first error wins. Blanks and comments are passed over where the flag `x` is set.
-/

namespace TraceCheck.Regex

open TraceCheck.Text TraceCheck.Unicode

/-- The text still to be read, whether blanks are passed over, and the names of
the groups so far. -/
structure State where
  rest : List Char
  ignoreBlanks : Bool
  names : List (List Char)

/-- Reading moves on in the text or ends with an error. -/
abbrev Parser := StateT State (Except SyntaxError)

/-- The next character, which stays. -/
def peek? : Parser (Option Char) := do return (← get).rest.head?

/-- Whether the text ends here. -/
def atEnd : Parser Bool := do return (← get).rest.isEmpty

/-- Whether a character comes next. -/
def isNext (c : Char) : Parser Bool := do return (← get).rest.head? = some c

/-- Pass one character. -/
def bump : Parser Unit := modify fun s => { s with rest := s.rest.tail }

/-- Blanks and comments in front of a text. -/
def dropBlanks : List Char → List Char
  | [] => []
  | c :: rest =>
    if isBlank c then dropBlanks rest
    else if c = '#' then dropComment rest
    else c :: rest
where
  /-- A comment ends with its line. -/
  dropComment : List Char → List Char
    | [] => []
    | c :: rest => if c = '\n' then dropBlanks rest else dropComment rest

/-- Pass blanks and comments where they do not count. -/
def bumpBlanks : Parser Unit :=
  modify fun s => if s.ignoreBlanks then { s with rest := dropBlanks s.rest } else s

/-- Pass one character and the blanks behind it. -/
def bumpAndBlanks : Parser Unit := do
  bump
  bumpBlanks

/-- Pass a fixed text if it comes next. -/
def bumpIf (text : String) : Parser Bool := do
  let s ← get
  if text.toList.isPrefixOf s.rest then
    set { s with rest := s.rest.drop text.length }
    return true
  else return false

/-- The character after the next one, blanks and the mark of a comment not
counted where they do not count. -/
def peekSecond? : Parser (Option Char) := do
  let s ← get
  let rest := s.rest.tail
  if s.ignoreBlanks then
    let rest' := rest.dropWhile isBlank
    match rest' with
    | '#' :: comment => return (comment.dropWhile isBlank).head?
    | c :: _ => return some c
    | [] => return rest.head?
  else return rest.head?

/-- Fail if the text ends here. -/
def unlessEnd (e : SyntaxError) : Parser Unit := do
  if ← atEnd then throw e

/-- The next character, or an error at the end of the text. -/
def nextOr (e : SyntaxError) : Parser Char := do
  match ← peek? with
  | some c => return c
  | none => throw e

/-- The decimal digits that come next, with blanks around them. -/
def decimalDigits : (fuel : Nat) → Parser (List Char)
  | 0 => return []
  | fuel + 1 => do
    match ← peek? with
    | some c =>
      if '0' ≤ c ∧ c ≤ '9' then
        bumpAndBlanks
        return c :: (← decimalDigits fuel)
      else return []
    | none => return []

/-- Pass blanks, whether they count or not. -/
def passBlanks : Parser Unit :=
  modify fun s => { s with rest := s.rest.dropWhile isBlank }

/-- A number of a counted repetition; an error if there is none or if it exceeds
32 bits. -/
def decimal : Parser (Except SyntaxError Nat) := do
  passBlanks
  let ds ← decimalDigits ((← get).rest.length)
  passBlanks
  let n := ds.foldl (fun n c => n * 10 + (c.toNat - 48)) 0
  if ds.isEmpty then return .error .repetitionCountEmpty
  else if 1 <<< 32 ≤ n then return .error .decimalInvalid
  else return .ok n

/-- The character of a code in hexadecimal digits. -/
def hexCharacter (ds : List Char) (asByte : Bool) : Parser Character := do
  match hexNumber? ds with
  | some n =>
    if n.isValidChar then return ⟨Char.ofNat n, asByte && n < 256⟩
    else throw .escapeHexInvalid
  | none => throw .escapeHexInvalid

/-- A fixed number of hexadecimal digits; the first one comes next. -/
def hexDigits : (count : Nat) → Parser (List Char)
  | 0 => return []
  | count + 1 => do
    let c ← nextOr .escapeUnexpectedEnd
    if (hexValue? c).isNone then throw .escapeHexInvalidDigit
    bumpAndBlanks
    return c :: (← hexDigits count)

/-- Hexadecimal digits up to a closing brace. -/
def hexInBraces : (fuel : Nat) → Parser (List Char)
  | 0 => throw .escapeUnexpectedEnd
  | fuel + 1 => do
    let c ← nextOr .escapeUnexpectedEnd
    if c = '\x7d' then
      bumpAndBlanks
      return []
    if (hexValue? c).isNone then throw .escapeHexInvalidDigit
    bumpAndBlanks
    return c :: (← hexInBraces fuel)

/-- A character by its code; the letter of the escape comes next. -/
def hexEscape (kind : Char) : Parser Character := do
  bumpAndBlanks
  let c ← nextOr .escapeUnexpectedEnd
  if c = '\x7b' then
    bumpAndBlanks
    let ds ← hexInBraces ((← get).rest.length + 1)
    if ds.isEmpty then throw .escapeHexEmpty
    hexCharacter ds false
  else
    let count := if kind = 'x' then 2 else if kind = 'u' then 4 else 8
    hexCharacter (← hexDigits count) (kind = 'x')

/-- The characters up to a closing brace. -/
def nameInBraces : (fuel : Nat) → Parser (List Char)
  | 0 => throw .escapeUnexpectedEnd
  | fuel + 1 => do
    let c ← nextOr .escapeUnexpectedEnd
    if c = '\x7d' then return []
    bumpAndBlanks
    return c :: (← nameInBraces fuel)

/-- Split a name at the first occurrence of a mark. -/
def splitAt? (mark : List Char) : List Char → Option (List Char × List Char)
  | [] => none
  | c :: rest =>
    if mark.isPrefixOf (c :: rest) then some ([], (c :: rest).drop mark.length)
    else (splitAt? mark rest).map fun (a, b) => (c :: a, b)

/-- The property that a text in braces names. -/
def propertyOf (text : List Char) : PropertyQuery :=
  let valued (parts : List Char × List Char) (equal : Bool) : PropertyQuery :=
    .valued (String.ofList parts.1) (String.ofList parts.2) equal
  match splitAt? ['!', '='] text with
  | some parts => valued parts false
  | none =>
    match splitAt? [':'] text with
    | some parts => valued parts true
    | none =>
      match splitAt? ['='] text with
      | some parts => valued parts true
      | none => .named (String.ofList text)

/-- A property class; its letter comes next. -/
def propertyClass : Parser PropertyQuery := do
  bumpAndBlanks
  let c ← nextOr .escapeUnexpectedEnd
  if c = '\x7b' then
    bumpAndBlanks
    let text ← nameInBraces ((← get).rest.length + 1)
    bump
    return propertyOf text
  else if c = '\\' then throw .propertyInvalid
  else
    bumpAndBlanks
    return .letter c

/-- The characters that mean something in an expression. -/
def isMeta (c : Char) : Bool :=
  "\\.+*?()|[]\x7b\x7d^$#&-~".toList.contains c

/-- The characters that may have a backslash in front without a meaning. -/
def isEscapable (c : Char) : Bool :=
  isMeta c || (c.toNat < 128 && !c.isAlphanum && c != '<' && c != '>')

/-- The characters of the name of a special word boundary. -/
def isBoundaryChar (c : Char) : Bool :=
  c.isAlpha || c == '-'

/-- The name of a special word boundary. -/
def boundaryName : (fuel : Nat) → Parser (List Char)
  | 0 => return []
  | fuel + 1 => do
    match ← peek? with
    | some c =>
      if isBoundaryChar c then
        bumpAndBlanks
        return c :: (← boundaryName fuel)
      else return []
    | none => return []

/-- A word boundary, with its kind in braces if they hold no repetition. -/
def wordBoundary : Parser Assertion := do
  if !(← isNext '\x7b') then return .wordBoundary
  let before ← get
  bumpAndBlanks
  let c ← nextOr .boundaryUnexpectedEnd
  if !isBoundaryChar c then
    set before
    return .wordBoundary
  let name ← boundaryName ((← get).rest.length)
  if !(← isNext '\x7d') then throw .boundaryUnclosed
  bump
  match String.ofList name with
  | "start" => return .wordStart
  | "end" => return .wordEnd
  | "start-half" => return .wordStartHalf
  | "end-half" => return .wordEndHalf
  | _ => throw .boundaryUnrecognized

/-- The characters with an escape of their own. -/
def namedEscape? : Char → Option Char
  | 'a' => some '\x07'
  | 'f' => some '\x0c'
  | 't' => some '\t'
  | 'n' => some '\n'
  | 'r' => some '\r'
  | 'v' => some '\x0b'
  | _ => none

/-- An escape; the backslash comes next. -/
def escape : Parser Ast := do
  bump
  let c ← nextOr .escapeUnexpectedEnd
  match c with
  | 'x' => return .character (← hexEscape c)
  | 'u' => return .character (← hexEscape c)
  | 'U' => return .character (← hexEscape c)
  | 'p' => return .property (← propertyClass) false
  | 'P' => return .property (← propertyClass) true
  | 'd' => bump; return .perl .digit false
  | 's' => bump; return .perl .space false
  | 'w' => bump; return .perl .word false
  | 'D' => bump; return .perl .digit true
  | 'S' => bump; return .perl .space true
  | 'W' => bump; return .perl .word true
  | c =>
    if c.isDigit then throw .backreference
    bump
    if isEscapable c then return .character ⟨c, false⟩
    match namedEscape? c with
    | some d => return .character ⟨d, false⟩
    | none =>
      match c with
      | 'A' => return .assertion .startText
      | 'z' => return .assertion .endText
      | 'b' => return .assertion (← wordBoundary)
      | 'B' => return .assertion .notWordBoundary
      | '<' => return .assertion .wordStart
      | '>' => return .assertion .wordEnd
      | _ => throw .escapeUnrecognized

/-- The names of the classes of ASCII characters. -/
def asciiClassNames : List String :=
  [ "alnum", "alpha", "ascii", "blank", "cntrl", "digit", "graph", "lower", "print",
    "punct", "space", "upper", "word", "xdigit" ]

/-- A class `[:name:]`, if one comes next. -/
def asciiClass? : Parser (Option SetItem) := do
  let s ← get
  match s.rest with
  | '[' :: ':' :: rest =>
    let (negated, rest) := match rest with
      | '^' :: rest => (true, rest)
      | rest => (false, rest)
    let name := String.ofList (rest.takeWhile (· != ':'))
    match rest.dropWhile (· != ':') with
    | ':' :: ']' :: after =>
      if asciiClassNames.contains name then
        set { s with rest := after }
        return some (.ascii name negated)
      else return none
    | _ => return none
  | _ => return none

/-- One character or escape of a bracket. -/
def setPrimitive : Parser Ast := do
  match ← peek? with
  | some '\\' => escape
  | some c => bump; return .character ⟨c, false⟩
  | none => throw .classUnclosed

/-- An escape as an item of a bracket. -/
def itemOf : Ast → Parser SetItem
  | .character c => return .character c
  | .perl kind negated => return .perl kind negated
  | .property query negated => return .property query negated
  | _ => throw .classEscapeInvalid

/-- An escape as an end of a range. -/
def endOf : Ast → Parser Character
  | .character c => return c
  | _ => throw .classRangeLiteral

/-- An item of a bracket, or a range of characters. -/
def setRange : Parser SetItem := do
  let first ← setPrimitive
  bumpBlanks
  unlessEnd .classUnclosed
  let second ← peekSecond?
  if !(← isNext '-') || second = some ']' || second = some '-' then itemOf first
  else
    bumpAndBlanks
    unlessEnd .classUnclosed
    let last ← setPrimitive
    let a ← endOf first
    let b ← endOf last
    if b.char < a.char then throw .classRangeInvalid
    return .range a b

/-- Dashes at the start of a bracket stand for themselves. -/
def openingDashes : (fuel : Nat) → Parser (List SetItem)
  | 0 => return []
  | fuel + 1 => do
    if ← isNext '-' then
      bumpAndBlanks
      unlessEnd .classUnclosed
      return .character ⟨'-', false⟩ :: (← openingDashes fuel)
    else return []

/-- The first items of a bracket, where dashes and a closing bracket stand for
themselves. -/
def firstItems : Parser (List SetItem) := do
  let dashes ← openingDashes ((← get).rest.length)
  if dashes.isEmpty && (← isNext ']') then
    bumpAndBlanks
    unlessEnd .classUnclosed
    return [.character ⟨']', false⟩]
  return dashes

/-- The start of a bracket: whether it is negated, and its first items. -/
def openBracket : Parser (Bool × List SetItem) := do
  bumpAndBlanks
  unlessEnd .classUnclosed
  if ← isNext '^' then
    bumpAndBlanks
    unlessEnd .classUnclosed
    return (true, ← firstItems)
  return (false, ← firstItems)

/-- Join an operand to the operator in front of it. -/
def applyOperator (left : Option (SetOperator × SetContent)) (items : List SetItem) :
    SetContent :=
  match left with
  | none => .items items.reverse
  | some (op, l) => .operation op l (.items items.reverse)

/-- The rest of a bracket after its start. `left` is the operand and operator in
front, `items` are those of the current operand, last one first. -/
def bracketRest : (fuel : Nat) → (left : Option (SetOperator × SetContent)) →
    (items : List SetItem) → Parser SetContent
  | 0, _, _ => throw .classUnclosed
  | fuel + 1, left, items => do
    bumpBlanks
    unlessEnd .classUnclosed
    if ← isNext '[' then
      match ← asciiClass? with
      | some item => bracketRest fuel left (item :: items)
      | none =>
        let (negated, first) ← openBracket
        let inner ← bracketRest fuel none first.reverse
        bracketRest fuel left (.bracket negated inner :: items)
    else if ← isNext ']' then
      bump
      return applyOperator left items
    else if ← bumpIf "&&" then
      bracketRest fuel (some (.intersection, applyOperator left items)) []
    else if ← bumpIf "--" then
      bracketRest fuel (some (.difference, applyOperator left items)) []
    else if ← bumpIf "~~" then
      bracketRest fuel (some (.symmetricDifference, applyOperator left items)) []
    else
      let item ← setRange
      bracketRest fuel left (item :: items)

/-- A bracket; its opening bracket comes next. -/
def bracket : Parser Ast := do
  let (negated, first) ← openBracket
  let content ← bracketRest ((← get).rest.length + 1) none first.reverse
  return .bracket negated content

/-- The flag of a letter. -/
def flagOf? : Char → Option Flag
  | 'i' => some .caseInsensitive
  | 'm' => some .multiLine
  | 's' => some .dotMatchesNewLine
  | 'U' => some .swapGreed
  | 'u' => some .unicode
  | 'R' => some .carriageReturn
  | 'x' => some .ignoreBlanks
  | _ => none

/-- The flags up to a colon or a closing parenthesis. -/
def flagLetters : (fuel : Nat) → FlagChange → (negated dangling : Bool) → Parser FlagChange
  | 0, _, _, _ => throw .flagUnexpectedEnd
  | fuel + 1, change, negated, dangling => do
    let c ← nextOr .flagUnexpectedEnd
    if c = ':' ∨ c = ')' then
      if dangling then throw .flagDanglingNegation
      return change
    if c = '-' then
      if negated then throw .flagRepeatedNegation
      bump
      unlessEnd .flagUnexpectedEnd
      flagLetters fuel change true true
    else
      match flagOf? c with
      | none => throw .flagUnrecognized
      | some flag =>
        if (change.state? flag).isSome then throw .flagDuplicate
        bump
        unlessEnd .flagUnexpectedEnd
        let change :=
          if negated then { change with clear := change.clear ++ [flag] }
          else { change with set := change.set ++ [flag] }
        flagLetters fuel change negated false

/-- The letters of every script. -/
def alphabetic : CodePoints :=
  .ofRanges <| binaryTable.flatMap fun (names, rows) =>
    if names.contains "alphabetic" then (CodePoints.ofText rows).ranges else []

/-- The numbers of every script. -/
def numeric : CodePoints :=
  .ofRanges <| categoryTable.flatMap fun (names, rows) =>
    if names.any ["nd", "nl", "no"].contains then (CodePoints.ofText rows).ranges else []

/-- The characters of the name of a group. -/
def isNameChar (first : Bool) (c : Char) : Bool :=
  if first then c == '_' || alphabetic.contains c
  else c == '_' || c == '.' || c == '[' || c == ']' || alphabetic.contains c ||
    numeric.contains c

/-- The name of a group up to its closing angle. -/
def groupName : (fuel : Nat) → (first : Bool) → Parser (List Char)
  | 0, _ => throw .groupNameUnexpectedEnd
  | fuel + 1, first => do
    let c ← nextOr .groupNameUnexpectedEnd
    if c = '>' then return []
    if !isNameChar first c then throw .groupNameInvalid
    bump
    return c :: (← groupName fuel false)

/-- The name of a group, which no other group has. -/
def namedGroup : Parser Unit := do
  let name ← groupName ((← get).rest.length + 1) true
  bump
  if name.isEmpty then throw .groupNameEmpty
  let s ← get
  if s.names.contains name then throw .groupNameDuplicate
  set { s with names := name :: s.names }

/-- The start of a group, or flags on their own; the parenthesis comes next. -/
def openGroup : Parser (GroupKind ⊕ FlagChange) := do
  bump
  bumpBlanks
  for mark in ["?=", "?!", "?<=", "?<!"] do
    if ← bumpIf mark then throw .lookAround
  if ← bumpIf "?P<" then
    namedGroup
    return .inl .capture
  if ← bumpIf "?<" then
    namedGroup
    return .inl .capture
  if ← bumpIf "?" then
    unlessEnd .groupUnclosed
    let change ← flagLetters ((← get).rest.length + 1) ⟨[], []⟩ false false
    let closed ← isNext ')'
    bump
    if closed then
      if change.set.isEmpty && change.clear.isEmpty then throw .repetitionMissing
      return .inr change
    return .inl (.flags change)
  return .inl .capture

/-- Whether a repetition is greedy: no question mark follows it. -/
def isGreedy : Parser Bool := do
  if ← isNext '?' then
    bump
    return false
  return true

/-- The counts of a repetition and whether it is greedy; the brace comes next. -/
def counts : Parser (Nat × Option Nat × Bool) := do
  bumpAndBlanks
  unlessEnd .repetitionCountUnclosed
  let first ← decimal
  unlessEnd .repetitionCountUnclosed
  let range ← (do
    if ← isNext ',' then
      bumpAndBlanks
      unlessEnd .repetitionCountUnclosed
      if ← isNext '\x7d' then return (← liftExcept first, none)
      else
        let least ← liftExcept first
        let most ← liftExcept (← decimal)
        return (least, some most)
    else
      let n ← liftExcept first
      return (n, some n))
  if !(← isNext '\x7d') then throw .repetitionCountUnclosed
  bumpAndBlanks
  let greedy ← isGreedy
  if range.2.any (· < range.1) then throw .repetitionCountInvalid
  return (range.1, range.2, greedy)
where
  /-- Report an error that was kept. -/
  liftExcept (r : Except SyntaxError Nat) : Parser Nat :=
    match r with
    | .ok n => return n
    | .error e => throw e

/-- Take off the last part of a sequence for a repetition. -/
def lastPart : List Ast → Parser (Ast × List Ast)
  | [] => throw .repetitionMissing
  | .flags _ :: _ => throw .repetitionMissing
  | .empty :: _ => throw .repetitionMissing
  | a :: rest => return (a, rest)

/-- A sequence as one expression. -/
def concatOf : List Ast → Ast
  | [] => .empty
  | [a] => a
  | parts => .concat parts

/-- The expression of the branches read so far, all in reverse. -/
def branchesOf (branches : List Ast) (parts : List Ast) : Ast :=
  let last := concatOf parts.reverse
  if branches.isEmpty then last else .alternation (branches.reverse ++ [last])

/-- Repeat the last part as the next character says. -/
def repeatLast (parts : List Ast) (least : Nat) (most : Option Nat) : Parser (List Ast) := do
  let (a, rest) ← lastPart parts
  bump
  return .repetition least most (← isGreedy) a :: rest

/-- Repeat the last part as often as the braces say that come next. -/
def countLast (parts : List Ast) : Parser (List Ast) := do
  let (a, rest) ← lastPart parts
  let (least, most, greedy) ← counts
  return .repetition least most greedy a :: rest

/-- Read what begins with the next character, which is no parenthesis, and add it to
the branches and parts that were read before. -/
def extend (branches parts : List Ast) (next : Char) : Parser (List Ast × List Ast) := do
  match next with
  | '|' => bump; return (concatOf parts.reverse :: branches, [])
  | '[' => return (branches, (← bracket) :: parts)
  | '?' => return (branches, ← repeatLast parts 0 (some 1))
  | '*' => return (branches, ← repeatLast parts 0 none)
  | '+' => return (branches, ← repeatLast parts 1 none)
  | '\x7b' => return (branches, ← countLast parts)
  | '\\' => return (branches, (← escape) :: parts)
  | '.' => bump; return (branches, .dot :: parts)
  | '^' => bump; return (branches, .assertion .startLine :: parts)
  | '$' => bump; return (branches, .assertion .endLine :: parts)
  | c => bump; return (branches, .character ⟨c, false⟩ :: parts)

/-- Pass over blanks or not, as flags say. -/
def setBlanks (change : FlagChange) : Parser Unit :=
  modify fun s => { s with ignoreBlanks := (change.state? .ignoreBlanks).getD s.ignoreBlanks }

/-- Pass over blanks in a group or not. -/
def enterGroup : GroupKind → Parser Unit
  | .capture => return
  | .flags change => setBlanks change

/-- An expression up to the end of the text or of its group. `branches` and
`parts` are what was read before, last one first. -/
def expression : (fuel : Nat) → (inGroup : Bool) → (branches parts : List Ast) → Parser Ast
  | 0, _, _, _ => throw .groupUnclosed
  | fuel + 1, inGroup, branches, parts => do
    bumpBlanks
    match ← peek? with
    | none =>
      if inGroup then throw .groupUnclosed
      return branchesOf branches parts
    | some c =>
      if c = '(' then
        match ← openGroup with
        | .inr change =>
          setBlanks change
          expression fuel inGroup branches (.flags change :: parts)
        | .inl kind =>
          let outer := (← get).ignoreBlanks
          enterGroup kind
          let body ← expression fuel true [] []
          modify fun s => { s with ignoreBlanks := outer }
          expression fuel inGroup branches (.group kind body :: parts)
      else if c = ')' then
        if !inGroup then throw .groupUnopened
        bump
        return branchesOf branches parts
      else
        let (branches, parts) ← extend branches parts c
        expression fuel inGroup branches parts

mutual

/-- How deep brackets are nested in an item. -/
def SetItem.depth : SetItem → Nat
  | .bracket _ content => 1 + content.depth
  | _ => 0

/-- How deep brackets are nested in the content of a bracket. -/
def SetContent.depth : SetContent → Nat
  | .items [] => 0
  | .items [i] => i.depth
  | .items (i :: j :: rest) => 1 + max i.depth (itemsDepth (j :: rest))
  | .operation _ l r => 1 + max l.depth r.depth

/-- The greatest depth of some items. -/
def itemsDepth : List SetItem → Nat
  | [] => 0
  | i :: rest => max i.depth (itemsDepth rest)

end

mutual

/-- How deep groups, repetitions, brackets and sequences are nested. -/
def Ast.depth : Ast → Nat
  | .bracket _ content => 1 + content.depth
  | .repetition _ _ _ body => 1 + body.depth
  | .group _ body => 1 + body.depth
  | .concat parts => 1 + partsDepth parts
  | .alternation branches => 1 + partsDepth branches
  | _ => 0

/-- The greatest depth of some expressions. -/
def partsDepth : List Ast → Nat
  | [] => 0
  | a :: rest => max a.depth (partsDepth rest)

end

/-- The greatest depth of nesting. -/
def nestLimit : Nat := 250

/-- Read the text of a regular expression. -/
def parse (text : List Char) : Except SyntaxError Ast := do
  let (ast, _) ← (expression (2 * text.length + 2) false [] []).run ⟨text, false, []⟩
  if nestLimit < ast.depth then throw (.nestLimitExceeded nestLimit)
  return ast

end TraceCheck.Regex
