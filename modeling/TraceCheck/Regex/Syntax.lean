/-!
# The syntax of regular expressions

The tree that the text of a regular expression spells, with flags and escapes
as written, and the errors that the text can have.
-/

namespace TraceCheck.Regex

/-- What is wrong with the text of a regular expression. -/
inductive SyntaxError where
  | classEscapeInvalid
  | classRangeInvalid
  | classRangeLiteral
  | classUnclosed
  | decimalInvalid
  | escapeHexEmpty
  | escapeHexInvalid
  | escapeHexInvalidDigit
  | escapeUnexpectedEnd
  | escapeUnrecognized
  | flagDanglingNegation
  | flagDuplicate
  | flagRepeatedNegation
  | flagUnexpectedEnd
  | flagUnrecognized
  | groupNameDuplicate
  | groupNameEmpty
  | groupNameInvalid
  | groupNameUnexpectedEnd
  | groupUnclosed
  | groupUnopened
  | nestLimitExceeded (limit : Nat)
  | repetitionCountInvalid
  | repetitionCountEmpty
  | repetitionCountUnclosed
  | repetitionMissing
  | boundaryUnclosed
  | boundaryUnrecognized
  | boundaryUnexpectedEnd
  | propertyInvalid
  | backreference
  | lookAround
  | unicodeNotAllowed
  | invalidUtf8
  | propertyNotFound
  | propertyValueNotFound
  | tooLarge (limit : Nat)
  deriving DecidableEq, Repr

/-- The words for an error. -/
def SyntaxError.message : SyntaxError → String
  | .classEscapeInvalid => "invalid escape sequence found in character class"
  | .classRangeInvalid => "invalid character class range, the start must be <= the end"
  | .classRangeLiteral => "invalid range boundary, must be a literal"
  | .classUnclosed => "unclosed character class"
  | .decimalInvalid => "decimal literal invalid"
  | .escapeHexEmpty => "hexadecimal literal empty"
  | .escapeHexInvalid => "hexadecimal literal is not a Unicode scalar value"
  | .escapeHexInvalidDigit => "invalid hexadecimal digit"
  | .escapeUnexpectedEnd =>
    "incomplete escape sequence, reached end of pattern prematurely"
  | .escapeUnrecognized => "unrecognized escape sequence"
  | .flagDanglingNegation => "dangling flag negation operator"
  | .flagDuplicate => "duplicate flag"
  | .flagRepeatedNegation => "flag negation operator repeated"
  | .flagUnexpectedEnd => "expected flag but got end of regex"
  | .flagUnrecognized => "unrecognized flag"
  | .groupNameDuplicate => "duplicate capture group name"
  | .groupNameEmpty => "empty capture group name"
  | .groupNameInvalid => "invalid capture group character"
  | .groupNameUnexpectedEnd => "unclosed capture group name"
  | .groupUnclosed => "unclosed group"
  | .groupUnopened => "unopened group"
  | .nestLimitExceeded limit =>
    "exceed the maximum number of nested parentheses/brackets (" ++ toString limit ++ ")"
  | .repetitionCountInvalid =>
    "invalid repetition count range, the start must be <= the end"
  | .repetitionCountEmpty => "repetition quantifier expects a valid decimal"
  | .repetitionCountUnclosed => "unclosed counted repetition"
  | .repetitionMissing => "repetition operator missing expression"
  | .boundaryUnclosed =>
    "special word boundary assertion is either unclosed or contains an invalid character"
  | .boundaryUnrecognized =>
    "unrecognized special word boundary assertion, valid choices are: start, end, " ++
      "start-half or end-half"
  | .boundaryUnexpectedEnd =>
    "found either the beginning of a special word boundary or a bounded repetition on a " ++
      "\\b with an opening brace, but no closing brace"
  | .propertyInvalid => "invalid Unicode character class"
  | .backreference => "backreferences are not supported"
  | .lookAround =>
    "look-around, including look-ahead and look-behind, is not supported"
  | .unicodeNotAllowed => "Unicode not allowed here"
  | .invalidUtf8 => "pattern can match invalid UTF-8"
  | .propertyNotFound => "Unicode property not found"
  | .propertyValueNotFound => "Unicode property value not found"
  | .tooLarge limit =>
    "Compiled regex exceeds size limit of " ++ toString limit ++ " bytes."

/-- The flags that change how an expression is read. -/
inductive Flag where
  | caseInsensitive
  | multiLine
  | dotMatchesNewLine
  | swapGreed
  | unicode
  | carriageReturn
  | ignoreBlanks
  deriving DecidableEq, Repr

/-- Flags to set and, after the dash, flags to clear. -/
structure FlagChange where
  set : List Flag
  clear : List Flag
  deriving DecidableEq, Repr

/-- The new state of a flag, if the change mentions it. -/
def FlagChange.state? (f : FlagChange) (flag : Flag) : Option Bool :=
  if f.set.contains flag then some true
  else if f.clear.contains flag then some false
  else none

/-- Conditions on a place in the text. -/
inductive Assertion where
  | startLine
  | endLine
  | startText
  | endText
  | wordBoundary
  | notWordBoundary
  | wordStart
  | wordEnd
  | wordStartHalf
  | wordEndHalf
  deriving DecidableEq, Repr

/-- The classes with a one-letter escape. -/
inductive PerlClass where
  | digit
  | space
  | word
  deriving DecidableEq, Repr

/-- A property of characters as written: a name, or a name and a value. -/
inductive PropertyQuery where
  | letter (c : Char)
  | named (name : String)
  | valued (name value : String) (equal : Bool)
  deriving DecidableEq, Repr

/-- A character as written. `asByte` marks the two-digit escape, which means a
byte where Unicode is off. -/
structure Character where
  char : Char
  asByte : Bool
  deriving DecidableEq, Repr

/-- The operators between the parts of a bracket. -/
inductive SetOperator where
  | intersection
  | difference
  | symmetricDifference
  deriving DecidableEq, Repr

mutual

/-- One item of a bracket. -/
inductive SetItem where
  | character (c : Character)
  | range (first last : Character)
  | ascii (name : String) (negated : Bool)
  | perl (kind : PerlClass) (negated : Bool)
  | property (query : PropertyQuery) (negated : Bool)
  | bracket (negated : Bool) (content : SetContent)

/-- The content of a bracket. -/
inductive SetContent where
  | items (items : List SetItem)
  | operation (op : SetOperator) (left right : SetContent)

end

/-- The kinds of groups. -/
inductive GroupKind where
  | capture
  | flags (change : FlagChange)
  deriving DecidableEq, Repr

/-- A regular expression as written. -/
inductive Ast where
  | empty
  | flags (change : FlagChange)
  | character (c : Character)
  | dot
  | assertion (a : Assertion)
  | perl (kind : PerlClass) (negated : Bool)
  | property (query : PropertyQuery) (negated : Bool)
  | bracket (negated : Bool) (content : SetContent)
  | repetition (least : Nat) (most : Option Nat) (greedy : Bool) (body : Ast)
  | group (kind : GroupKind) (body : Ast)
  | concat (parts : List Ast)
  | alternation (branches : List Ast)

instance : Inhabited Ast := ⟨.empty⟩

end TraceCheck.Regex
