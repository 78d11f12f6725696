import TraceCheck.Decimal.Reader
import TraceCheck.Expr.Error
import TraceCheck.Token.Lexer
import TraceCheck.Verdict

/-!
# Reading rules

A rule is a chain of terms joined by `and` and `or`, which bind alike and to the
left. A term is a check behind any number of `not`. A step of reading yields what
it noted, the tokens that are left and its result; when a term fails, reading
goes on behind the next `and` or `or`, so that one pass shows as many errors as
possible. `check` reads the text of a rule.
-/

namespace TraceCheck

namespace Reading

/-- Why a step has no result. The reason has been noted, unless it is the time. -/
inductive Abort where
  /-- A term is wrong; reading goes on with the next one. -/
  | failed
  /-- Reading ends here. -/
  | stopped
  /-- The time is used up; reading ends here. -/
  | timedOut
  deriving DecidableEq, Repr

/-- What stays the same while a rule is read. -/
structure Context where
  maxDepth : Nat
  /-- The token behind the last one. -/
  stop : Token
  /-- The number of all tokens, which no loop exceeds. -/
  size : Nat

/-- What a step noted, the tokens it left and its result. -/
structure Outcome (α : Type) where
  findings : List Finding
  rest : List Token
  result : Except Abort α

/-- A step of reading. -/
def Step (α : Type) : Type :=
  Context → List Token → Outcome α

namespace Step

/-- A step with a result that reads nothing. -/
protected def pure {α : Type} (a : α) : Step α := fun _ ts => ⟨[], ts, .ok a⟩

/-- One step after the other. -/
protected def bind {α β : Type} (p : Step α) (f : α → Step β) : Step β := fun ctx ts =>
  match p ctx ts with
  | ⟨found, rest, .ok a⟩ =>
    let next := f a ctx rest
    ⟨found ++ next.findings, next.rest, next.result⟩
  | ⟨found, rest, .error e⟩ => ⟨found, rest, .error e⟩

instance : Monad Step where
  pure := Step.pure
  bind := Step.bind

end Step

/-- The next token. -/
def peek : Step Token := fun ctx ts => ⟨[], ts, .ok (ts.headD ctx.stop)⟩

/-- Pass the next token. -/
def pass : Step Unit := fun _ ts => ⟨[], ts.tail, .ok ()⟩

/-- The tokens that are left. -/
def remaining : Step (List Token) := fun _ ts => ⟨[], ts, .ok ts⟩

/-- Go on with these tokens. -/
def goOn (ts : List Token) : Step Unit := fun _ _ => ⟨[], ts, .ok ()⟩

/-- The number of all tokens. -/
def size : Step Nat := fun ctx ts => ⟨[], ts, .ok ctx.size⟩

/-- Note remarks about a range. -/
def remark (ls : List Lint) (first : Token) (length : Nat) : Step Unit := fun _ ts =>
  ⟨ls.map fun l => .lint l first length, ts, .ok ()⟩

/-- Fail with an error at a token. -/
def fail {α : Type} (e : ParseError) (place : Token) : Step α := fun _ ts =>
  ⟨[.error e place], ts, .error .failed⟩

/-- Fail because the next token is not what is required. -/
def unexpected {α : Type} (what : Expectation) : Step α := do
  let t ← peek
  fail (.expected what t.describe) t

/-- Pass a token of a kind. -/
def expect (kind : TokenKind) (what : Expectation) : Step Unit := do
  if (← peek).kind = kind then pass else unexpected what

/-- Take one more level of nesting than the levels taken, unless that is too many. -/
def enter (taken : Nat) : Step Unit := fun ctx ts =>
  if ctx.maxDepth ≤ taken then
    ⟨[.error (.tooDeep ctx.maxDepth) (ts.headD ctx.stop)], ts, .error .stopped⟩
  else ⟨[], ts, .ok ()⟩

/-! ## Names -/

/-- A name with dots: its first token and the tokens behind its dots. -/
structure DottedName where
  first : Token
  segments : List Token

namespace DottedName

/-- The words at the start of some tokens that each follow a dot, and the tokens
behind them. -/
def splitSegments : List Token → List Token × List Token
  | dot :: word :: rest =>
    if dot.kind = .dot ∧ word.kind.isWord then
      let (words, rest) := splitSegments rest
      (word :: words, rest)
    else ([], dot :: word :: rest)
  | ts => ([], ts)

/-- The name. -/
def text (n : DottedName) : String :=
  n.first.text ++ String.join (n.segments.map fun s => "." ++ s.text)

/-- The columns from the start of the name to the end of its last part in the
same line. -/
def length (n : DottedName) : Nat :=
  let stop := ((n.first :: n.segments).filter (·.line = n.first.line)).getLast?
  (stop.map fun t => t.column + t.length).getD 0 - n.first.column

end DottedName

/-- Read words joined by dots. -/
def dottedName (what : Expectation) : Step DottedName := do
  let first ← peek
  if !first.kind.isWord then unexpected what
  else
    pass
    let (segments, rest) := DottedName.splitSegments (← remaining)
    goOn rest
    return ⟨first, segments⟩

/-- Read the name of a span. -/
def spanName : Step String := do
  let n ← dottedName .spanName
  remark (Lint.ofSpanName n.text) n.first n.length
  return n.text

/-- Read the name of a span in parentheses. -/
def spanArgument : Step String := do
  expect .lParen .openParen
  let n ← spanName
  expect .rParen .closeParen
  return n

/-! ## Values -/

/-- The comparator that a token is. -/
def comparatorOf? (t : Token) : Option Comparator :=
  match t.kind with
  | .eq => some .eq
  | .notEq => some .notEq
  | .gt => some .gt
  | .gte => some .gte
  | .lt => some .lt
  | .lte => some .lte
  | .in => some .in
  | .matches => some .matches
  | .identifier => if t.text = Comparator.contains.name then some .contains else none
  | _ => none

/-- Read a comparator. -/
def comparator : Step Comparator := do
  match comparatorOf? (← peek) with
  | some op => pass; return op
  | none => unexpected .comparator

/-- Read a value that is no list. -/
def scalar : Step Literal := do
  let t ← peek
  match t.kind with
  | .string => pass; return .string t.text
  | .true => pass; return .bool true
  | .false => pass; return .bool false
  | .number =>
    match Decimal.readDouble? t.text with
    | some x => pass; return .number x
    | none => unexpected .number
  | .lBracket => fail .nestedList t
  | _ => unexpected .value

/-- Read the values of a list that is not empty, up to its closing bracket. -/
def listItems : (fuel : Nat) → Step (List Literal)
  | 0 => unexpected .value
  | fuel + 1 => do
    let x ← scalar
    match (← peek).kind with
    | .comma => pass; return x :: (← listItems fuel)
    | .rBracket => pass; return [x]
    | _ => unexpected .commaOrBracket

/-- Read a list behind its opening bracket. -/
def listLiteral : Step Literal := do
  if (← peek).kind = .rBracket then
    pass
    return .list []
  else return .list (← listItems (← size))

/-- Read the text of a pattern. -/
def patternLiteral : Step Literal := do
  let t ← peek
  pass
  match Pattern.ofText t.text with
  | .ok p => return .pattern p
  | .error e => fail (.pattern e) t

/-- Whether a comparator needs a string. -/
def needsString (op : Comparator) : Bool :=
  op = .matches || op = .contains

/-- Read the value behind a comparator. -/
def value (op : Comparator) : Step Literal := do
  let t ← peek
  if t.kind = .string ∧ op = .matches then patternLiteral
  else if t.kind = .lBracket then
    if op = .in then
      pass
      listLiteral
    else fail (.listNotAllowed op) t
  else
    match ← scalar with
    | .string s => return .string s
    | x => if needsString op then fail (.stringRequired op) t else return x

/-! ## Checks -/

/-- Whether a token begins a value. -/
def beginsValue (t : Token) : Bool :=
  match t.kind with
  | .string | .number | .true | .false | .lBracket => true
  | _ => false

/-- Whether a token is a comparator that is a word. -/
def isComparatorWord (t : Token) : Bool :=
  t.kind.isWord && (comparatorOf? t).isSome

/-- Whether a `not` in front of these tokens negates them and is no name itself: a
name follows, and a comparator is a name unless a value follows it. -/
def isNegation : List Token → Bool
  | [] => false
  | t :: rest =>
    if isComparatorWord t then !rest.head?.any beginsValue else t.kind.isWord

/-- Read whether a clause is negated. -/
def negation : Step Bool := do
  let ts ← remaining
  if (← peek).kind = .not ∧ isNegation ts.tail then
    pass
    return true
  else return false

/-- Read what is asked of an attribute, up to the closing parenthesis. -/
def attributeTest (name : DottedName) : Step Test := do
  if (← peek).kind = .rParen then return .truthy
  else
    let op ← comparator
    let x ← value op
    remark (Lint.ofComparison name.text op x) name.first name.length
    return .compare op x

/-- Read a clause in parentheses. -/
def clause : Step Clause := do
  expect .lParen .openParen
  let negated ← negation
  let name ← dottedName .attributeName
  let test ← attributeTest name
  expect .rParen .closeParen
  return ⟨name.text, test, negated⟩

/-- Read the clauses of a check. -/
def clauses : (fuel : Nat) → Step (List Clause)
  | 0 => return []
  | fuel + 1 => do
    if (← peek).kind = .dot then
      pass
      expect .where .where
      let c ← clause
      return c :: (← clauses fuel)
    else return []

/-- Read what a count is compared with. -/
def countOperand (op : Comparator) : Step CountOperand := do
  let t ← peek
  match t.kind with
  | .number =>
    pass
    match Decimal.readNat? countBound t.text with
    | some n =>
      remark (Lint.ofCount op n) t t.length
      return .literal n
    | none => fail (.countOperand t.describe) t
  | .trace =>
    pass
    expect .dot .dot
    expect .count .count
    return .count (← spanArgument)
  | _ => fail (.countOperand t.describe) t

/-- Read a check. -/
def spanCheck : Step Expr := do
  expect .trace .trace
  expect .dot .dot
  match (← peek).kind with
  | .has =>
    pass
    let name ← spanArgument
    return .has name (← clauses (← size))
  | .count =>
    pass
    let name ← spanArgument
    let t ← peek
    let op ← comparator
    if op.isRelational then return .count name op (← countOperand op)
    else fail (.countOperator op) t
  | _ => unexpected .check

/-! ## Expressions -/

/-- Look at the clock, in a place that the number of tokens left tells. -/
def look (late : Look → Bool) (place : Nat → Look) : Step Unit := fun _ ts =>
  if late (place ts.length) then ⟨[], ts, .error .timedOut⟩ else ⟨[], ts, .ok ()⟩

/-- Read a term; some levels of nesting are taken already. -/
def termBy (late : Look → Bool) : (fuel : Nat) → (taken : Nat) → Step Expr
  | 0, _ => unexpected .trace
  | fuel + 1, taken => do
    look late .term
    if (← peek).kind = .not then
      pass
      look late .level
      enter taken
      return .not (← termBy late fuel (taken + 1))
    else
      look late .check
      spanCheck

/-- The operator that joins terms at a token. -/
def operatorOf? (t : Token) : Option LogicalOp :=
  match t.kind with
  | .and => some .and
  | .or => some .or
  | _ => none

/-- The tokens from the next operator on. -/
def skipToOperator (ts : List Token) : List Token :=
  ts.dropWhile fun t => (operatorOf? t).isNone

/-- Run a step; if it fails, skip to the next operator. -/
def attempt {α : Type} (p : Step α) : Step (Option α) := fun ctx ts =>
  match p ctx ts with
  | ⟨found, rest, .ok a⟩ => ⟨found, rest, .ok (some a)⟩
  | ⟨found, rest, .error .failed⟩ => ⟨found, skipToOperator rest, .ok none⟩
  | ⟨found, rest, .error .stopped⟩ => ⟨found, rest, .error .stopped⟩
  | ⟨found, rest, .error .timedOut⟩ => ⟨found, rest, .error .timedOut⟩

/-- Read the operators and terms behind the first terms, if those could be read.
Each operator takes a level of nesting up to the end of the chain. -/
def chainBy (late : Look → Bool) :
    (fuel : Nat) → (taken : Nat) → (left : Option Expr) → Step (Option Expr)
  | 0, _, left => return left
  | fuel + 1, taken, left => do
    let t ← peek
    match operatorOf? t with
    | none => return left
    | some op =>
      pass
      remark (Lint.ofOperator op) t t.length
      look late .level
      enter taken
      let right ← attempt (termBy late (← size) (taken + 1))
      chainBy late fuel (taken + 1) (do return .binary op (← left) (← right))

/-- Read an expression; none if one of its terms could not be read. -/
def expressionBy (late : Look → Bool) : Step (Option Expr) := do
  look late fun _ => .expression
  let first ← attempt (termBy late (← size) 0)
  chainBy late (← size) 0 first

/-! ## Expressions in unlimited time -/

/-- No look is late. -/
def never : Look → Bool := fun _ => false

/-- Read a term, however long it takes. -/
def term : (fuel : Nat) → (taken : Nat) → Step Expr :=
  termBy never

/-- Read the operators and terms behind the first terms, however long it takes. -/
def chain : (fuel : Nat) → (taken : Nat) → (left : Option Expr) → Step (Option Expr) :=
  chainBy never

/-- Read an expression, however long it takes. -/
def expression : Step (Option Expr) :=
  expressionBy never

theorem term_succ (fuel taken : Nat) :
    term (fuel + 1) taken = (do
      if (← peek).kind = .not then
        pass
        enter taken
        return .not (← term fuel (taken + 1))
      else spanCheck) :=
  rfl

theorem chain_succ (fuel taken : Nat) (left : Option Expr) :
    chain (fuel + 1) taken left = (do
      let t ← peek
      match operatorOf? t with
      | none => return left
      | some op =>
        pass
        remark (Lint.ofOperator op) t t.length
        enter taken
        let right ← attempt (term (← size) (taken + 1))
        chain fuel (taken + 1) (do return .binary op (← left) (← right))) :=
  rfl

theorem expression_eq :
    expression = (do
      let first ← attempt (term (← size) 0)
      chain (← size) 0 first) :=
  rfl

end Reading

/-- The token that ends a list of tokens. -/
def stopToken (tokens : List Token) : Token :=
  match tokens.find? (·.kind = .eof), tokens.getLast? with
  | some t, _ => t
  | none, some t => .eof t.line (t.column + t.length)
  | none, none => .eof 1 1

/-- The verdict when reading the tokens of a rule has an outcome. Earlier diagnostics come
first. If the time is used up there is no other diagnostic. -/
def Reading.Outcome.verdict (l : Limits) (earlier : List Diagnostic)
    (out : Reading.Outcome (Option Expr)) : Verdict :=
  match out.result with
  | .error .timedOut =>
    let e := ParseError.timeout l.maxParseTimeMs
    .refused (.wholeInput e.message e.suggestion)
  | result =>
    let ast := match result with
      | .ok e => e
      | .error _ => none
    let trailing := match ast, out.rest with
      | some _, t :: _ => [Finding.error (.trailing t.describe) t]
      | _, _ => []
    .ofDiagnostics (earlier ++ (out.findings ++ trailing).map Finding.diagnostic) ast

/-- Read the tokens up to the first that marks the end. Earlier diagnostics excuse that
there are no tokens. -/
def checkTokens (l : Limits) (earlier : List Diagnostic) (tokens : List Token)
    (clock : Clock := .still) : Verdict :=
  let body := tokens.takeWhile (·.kind ≠ .eof)
  if body.isEmpty then
    if earlier.isEmpty then
      .refused (.wholeInput ParseError.empty.message ParseError.empty.suggestion)
    else .ofDiagnostics earlier none
  else
    let ctx : Reading.Context := ⟨l.maxRecursionDepth, stopToken tokens, body.length + 1⟩
    (Reading.expressionBy (l.isLate clock) ctx body).verdict l earlier

/-- Check the text of a rule. -/
def check (l : Limits) (source : String) (clock : Clock := .still) : Verdict :=
  let lexed := tokenize l source clock
  if lexed.fatal then .ofDiagnostics lexed.errors none
  else checkTokens l lexed.errors lexed.tokens clock

end TraceCheck
