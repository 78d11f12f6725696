import TraceCheck.Limits
import TraceCheck.Redaction.Cut
import TraceCheck.Token.Basic
import TraceCheck.Token.Error

/-!
# From text to tokens

A text is cut into lexemes from left to right: `Lexeme.next` classifies the text
at a place and says how much of it the lexeme takes, `lexemes` does so up to the
end. Tokens and errors are read off the lexemes one by one, so that one pass
shows every error of a text.
-/

namespace TraceCheck

open TraceCheck.Text

/-- What stands at a place of a rule text. -/
inductive Lexeme where
  | blank
  | comment
  | word
  | number
  /-- A closed string with its content. -/
  | string (content : List Char)
  /-- A string that is open at the end of the text. -/
  | openString
  /-- An operator or a mark. -/
  | symbol (kind : TokenKind)
  /-- A character that begins no token. -/
  | stray (c : Char)
  deriving DecidableEq, Repr

namespace Lexeme

/-- The characters that begin a word. -/
def isWordStart (c : Char) : Bool :=
  c.isAlpha || c == '_'

/-- The characters of a word. -/
def isWordChar (c : Char) : Bool :=
  c.isAlphanum || c == '_'

/-- The operators of two characters. -/
def pair? : Char → Char → Option TokenKind
  | '=', '=' => some .eq
  | '!', '=' => some .notEq
  | '>', '=' => some .gte
  | '<', '=' => some .lte
  | _, _ => none

/-- The operators and marks of one character. -/
def single? : Char → Option TokenKind
  | '>' => some .gt
  | '<' => some .lt
  | '(' => some .lParen
  | ')' => some .rParen
  | '[' => some .lBracket
  | ']' => some .rBracket
  | '.' => some .dot
  | ',' => some .comma
  | _ => none

/-- Walk over a string after its opening quote: its content, the number of
characters up to its end and whether it is closed. A backslash takes quotes and
backslashes as they are and stays in front of every other character. -/
def scanString : List Char → (content : List Char) → (count : Nat) → List Char × Nat × Bool
  | [], content, n => (content.reverse, n, false)
  | '"' :: _, content, n => (content.reverse, n + 1, true)
  | '\\' :: [], content, n => (content.reverse, n + 1, false)
  | '\\' :: c :: rest, content, n =>
    if c = '"' ∨ c = '\\' then scanString rest (c :: content) (n + 2)
    else scanString rest (c :: '\\' :: content) (n + 2)
  | c :: rest, content, n => scanString rest (c :: content) (n + 1)

/-- The number of characters of a number: digits, and a point if digits follow it. -/
def numberLength (cs : List Char) : Nat :=
  let whole := cs.takeWhile Char.isDigit
  match cs.dropWhile Char.isDigit with
  | '.' :: d :: rest =>
    if d.isDigit then whole.length + 1 + ((d :: rest).takeWhile Char.isDigit).length
    else whole.length
  | _ => whole.length

/-- The lexeme at the start of a text `c :: rest`, and its number of characters. -/
def next (c : Char) (rest : List Char) : Lexeme × Nat :=
  if isBlank c then (.blank, 1)
  else if c = '/' ∧ rest.head? = some '/' then
    (.comment, ((c :: rest).takeWhile (· != '\n')).length)
  else if isWordStart c then (.word, ((c :: rest).takeWhile isWordChar).length)
  else if c = '"' then
    match scanString rest [] 1 with
    | (content, n, true) => (.string content, n)
    | (_, n, false) => (.openString, n)
  else if c.isDigit then (.number, numberLength (c :: rest))
  else
    match rest.head?.bind (pair? c) with
    | some kind => (.symbol kind, 2)
    | none =>
      match single? c with
      | some kind => (.symbol kind, 1)
      | none => (.stray c, 1)

end Lexeme

/-- A place in a rule text: what follows it, its line and column, and what stands
in front of it. -/
structure Cursor where
  rest : List Char
  line : Nat
  column : Nat
  /-- Number of bytes before the place. -/
  offset : Nat
  /-- The characters before the place, last one first. -/
  passed : List Char

namespace Cursor

/-- The start of a text. -/
def start (cs : List Char) : Cursor :=
  ⟨cs, 1, 1, 0, []⟩

/-- Pass one character. -/
def step (p : Cursor) : Cursor :=
  match p.rest with
  | [] => p
  | c :: rest =>
    { rest
      line := if c = '\n' then p.line + 1 else p.line
      column := if c = '\n' then 1 else p.column + 1
      offset := p.offset + c.utf8Size
      passed := c :: p.passed }

/-- Pass some characters. -/
def advance : (count : Nat) → Cursor → Cursor
  | 0, p => p
  | n + 1, p => advance n p.step

/-- What follows the place up to the next blank. -/
def wordRest (p : Cursor) : List Char :=
  p.rest.takeWhile fun c => !isBlank c

/-- The run without blanks around the place. -/
def word (p : Cursor) : List Char :=
  (p.passed.takeWhile fun c => !isBlank c).reverse ++ p.wordRest

/-- Number of bytes before the end of the run around the place. -/
def wordEnd (p : Cursor) : Nat :=
  p.offset + byteSize p.wordRest

end Cursor

/-- A lexeme with its place and its characters. -/
structure Located where
  lexeme : Lexeme
  start : Cursor
  chars : List Char

/-- The lexemes from a place on, added in reverse to those before it. -/
def lexemesFrom : (fuel : Nat) → Cursor → List Located → List Located × Cursor
  | 0, p, before => (before.reverse, p)
  | fuel + 1, p, before =>
    match p.rest with
    | [] => (before.reverse, p)
    | c :: rest =>
      let (lexeme, n) := Lexeme.next c rest
      lexemesFrom fuel (p.advance n) (⟨lexeme, p, p.rest.take n⟩ :: before)

/-- The lexemes of a text and the place behind the last one. -/
def lexemes (cs : List Char) : List Located × Cursor :=
  lexemesFrom cs.length (.start cs) []

namespace Located

/-- A token in place of a lexeme. -/
def toToken (x : Located) (kind : TokenKind) (text : List Char) : Token :=
  ⟨kind, String.ofList text, x.start.line, x.start.column, byteSize x.chars⟩

/-- The token of a lexeme. Words and strings that are too long are cut; a word
that was cut is no keyword. -/
def token? (l : Limits) (x : Located) : Option Token :=
  match x.lexeme with
  | .word =>
    if l.maxIdentifierLength < x.chars.length then
      some (x.toToken .identifier (x.chars.take l.maxIdentifierLength))
    else
      some (x.toToken ((TokenKind.keyword? (String.ofList x.chars)).getD .identifier) x.chars)
  | .number => some (x.toToken .number x.chars)
  | .string content => some (x.toToken .string (content.take l.maxStringLength))
  | .symbol kind => some (x.toToken kind kind.literal.toList)
  | _ => none

/-- The diagnostic of an error that concerns a lexeme. -/
def diagnose (x : Located) (e : LexicalError) : Diagnostic :=
  e.diagnostic x.start.line x.start.column (byteSize x.chars)

/-- The number of characters that messages quote at most. -/
def quotedChars : Nat := 60

/-- The word around a lexeme as messages quote it. -/
def shownWord (x : Located) : String :=
  Redaction.displaySafe (String.ofList x.start.word) quotedChars

/-- The word around a lexeme in the form in which it is kept: the end of the word,
and the word as messages quote it. -/
def keptWord (x : Located) : Nat × String :=
  (x.start.wordEnd, x.shownWord)

/-- The word to quote for a lexeme when a word is kept from an earlier error. That
one is used again in front of its end. -/
def wordGiven (x : Located) : (last : Option (Nat × String)) → Nat × String
  | some kept => if x.start.offset < kept.1 then kept else x.keptWord
  | none => x.keptWord

end Located

/-- The errors of lexemes in order. The word that an error quotes is kept for further
errors in front of its end. -/
def lexicalErrors (l : Limits) : List Located → (last : Option (Nat × String)) →
    (found : List Diagnostic) → List Diagnostic
  | [], _, found => found.reverse
  | x :: rest, last, found =>
    match x.lexeme with
    | .word =>
      if l.maxIdentifierLength < x.chars.length then
        lexicalErrors l rest last
          (x.diagnose (.identifierTooLong l.maxIdentifierLength) :: found)
      else lexicalErrors l rest last found
    | .string content =>
      if l.maxStringLength < content.length then
        lexicalErrors l rest last (x.diagnose (.stringTooLong l.maxStringLength) :: found)
      else lexicalErrors l rest last found
    | .openString => lexicalErrors l rest last (x.diagnose .unterminatedString :: found)
    | .stray c =>
      let word := x.wordGiven last
      let shown := Redaction.displaySafe (String.singleton c) Located.quotedChars
      lexicalErrors l rest (some word)
        (x.diagnose (.unexpectedCharacter shown word.2 (c = '=')) :: found)
    | _ => lexicalErrors l rest last found

/-- What reading the characters of a rule text gives. -/
structure Lexed where
  /-- The tokens, the last one marking the end. -/
  tokens : List Token
  /-- The errors in the order of the text. -/
  errors : List Diagnostic
  /-- Whether the text was refused as a whole. -/
  fatal : Bool

/-- The outcome when a text is refused as a whole. -/
def Lexed.refused (e : LexicalError) : Lexed :=
  ⟨[.eof 1 1], [e.diagnostic 1 1 1], true⟩

/-- The outcome when the time is used up in front of a lexeme: the tokens before it, and no
error but this one. -/
def Lexed.timedOut (l : Limits) (before : List Located) (p : Cursor) : Lexed :=
  { tokens := before.filterMap (·.token? l) ++ [.eof p.line p.column]
    errors := [(LexicalError.timeout l.maxParseTimeMs).diagnostic 1 1 1]
    fatal := true }

/-- The tokens and the errors of a rule text. -/
def tokenize (l : Limits) (source : String) (clock : Clock := .still) : Lexed :=
  if l.maxTotalLength < source.utf8ByteSize then
    .refused (.inputTooLarge source.utf8ByteSize l.maxTotalLength)
  else
    let (found, stop) := lexemes source.toList
    match found.zipIdx.find? fun x => l.isLate clock (.lexeme x.2) with
    | some (x, n) => .timedOut l (found.take n) x.start
    | none =>
      { tokens := found.filterMap (·.token? l) ++ [.eof stop.line stop.column]
        errors := lexicalErrors l found none []
        fatal := false }

/-! ## Unlimited time -/

theorem prefix_lexemesFrom (fuel : Nat) (p : Cursor) (before : List Located) :
    before.reverse <+: (lexemesFrom fuel p before).1 := by
  induction fuel generalizing p before with
  | zero => exact List.prefix_refl _
  | succ fuel ih =>
    unfold lexemesFrom
    split
    · exact List.prefix_refl _
    · refine List.IsPrefix.trans ?_ (ih _ _)
      rw [List.reverse_cons]
      exact List.prefix_append _ _

/-- The first lexeme of a text is at its start. -/
theorem exists_lexemes_eq_cons {cs : List Char} (h : cs ≠ []) :
    ∃ x rest, (lexemes cs).1 = x :: rest ∧ x.start = .start cs := by
  cases cs with
  | nil => exact absurd rfl h
  | cons c cs =>
    obtain ⟨rest, hrest⟩ := prefix_lexemesFrom cs.length
      ((Cursor.start (c :: cs)).advance (Lexeme.next c cs).2)
      [⟨(Lexeme.next c cs).1, .start (c :: cs), (c :: cs).take (Lexeme.next c cs).2⟩]
    exact ⟨_, rest, hrest.symm, rfl⟩

/-- As long as no time passes, it is used up at the start or not at all. -/
theorem tokenize_still (l : Limits) (source : String) :
    tokenize l source =
      if l.maxTotalLength < source.utf8ByteSize then
        .refused (.inputTooLarge source.utf8ByteSize l.maxTotalLength)
      else if l.expired ∧ source ≠ "" then .refused (.timeout l.maxParseTimeMs)
      else
        let (found, stop) := lexemes source.toList
        { tokens := found.filterMap (·.token? l) ++ [.eof stop.line stop.column]
          errors := lexicalErrors l found none []
          fatal := false } := by
  unfold tokenize
  simp only [Limits.isLate_still]
  split
  · rfl
  cases hl : l.expired with
  | false =>
    have hnone : (lexemes source.toList).1.zipIdx.find? (fun _ => false) = none :=
      List.find?_eq_none.mpr fun _ _ => Bool.false_ne_true
    rw [hnone, if_neg fun hexpired => Bool.false_ne_true hexpired.1]
  | true =>
    by_cases hsource : source = ""
    · subst hsource
      rfl
    · obtain ⟨x, rest, hfound, hstart⟩ := exists_lexemes_eq_cons
        (mt String.toList_eq_nil_iff.mp hsource)
      rw [if_pos ⟨rfl, hsource⟩, hfound, List.zipIdx_cons, List.find?_cons_of_pos rfl]
      dsimp only
      rw [hstart]
      rfl

end TraceCheck
