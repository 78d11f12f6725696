import TraceCheck.Regex.Size

/-!
# Guarded patterns

A pattern is the text of a regular expression and its program. The guard makes
the pattern of a text that is not empty and not too long, whose parentheses are
not nested too deep, in which no group with a repetition inside is repeated, and
which compiles within the size limit.
-/

namespace TraceCheck

/-- Why a pattern is refused. -/
inductive PatternError where
  | empty
  | tooLong (bytes limit : Nat)
  | tooDeep (limit : Nat)
  | nestedQuantifier
  | invalid (e : Regex.SyntaxError)
  deriving DecidableEq, Repr

/-- The words for a refusal. -/
def PatternError.message : PatternError → String
  | .empty => "Regex pattern is empty"
  | .tooLong bytes limit =>
    "Regex pattern is " ++ toString bytes ++ " bytes long (max: " ++ toString limit ++ ")"
  | .tooDeep limit =>
    "Regex pattern nests groups deeper than " ++ toString limit ++ " levels"
  | .nestedQuantifier => "Regex pattern contains a nested quantifier"
  | .invalid e => "Invalid regex pattern: " ++ e.message

namespace Pattern

/-- Bytes of a pattern at most. -/
def maxLength : Nat := 1000

/-- Levels of parentheses at most. -/
def maxGroupDepth : Nat := 10

/-- The greatest number of open parentheses. Those behind a backslash do not
count; a closing one without an opening one changes nothing. -/
def groupDepth (cs : List Char) : Nat :=
  go cs false 0 0
where
  /-- `escaped` is set behind a backslash. -/
  go : List Char → (escaped : Bool) → (depth deepest : Nat) → Nat
    | [], _, _, deepest => deepest
    | _ :: rest, true, depth, deepest => go rest false depth deepest
    | c :: rest, false, depth, deepest =>
      if c = '\\' then go rest true depth deepest
      else if c = '(' then go rest false (depth + 1) (max deepest (depth + 1))
      else if c = ')' then go rest false (depth - 1) deepest
      else go rest false depth deepest

/-- Whether a text begins with parentheses around a repetition, no other
parentheses between them, and a repetition of the whole. -/
def isNestedQuantifier : List Char → Bool
  | '(' :: rest =>
    let isParenthesis (c : Char) : Bool := c == '(' || c == ')'
    let body := rest.takeWhile fun c => !isParenthesis c
    match rest.dropWhile fun c => !isParenthesis c with
    | ')' :: q :: _ =>
      body.any (fun c => c == '+' || c == '*') && (q == '+' || q == '*' || q == '\x7b')
    | _ => false
  | _ => false

/-- Whether a repeated group with a repetition inside begins anywhere. -/
def hasNestedQuantifier : List Char → Bool
  | [] => false
  | c :: rest => isNestedQuantifier (c :: rest) || hasNestedQuantifier rest

/-- Check a pattern and compile it. -/
def vet (source : String) : Except PatternError Regex.Program :=
  let cs := source.toList
  if cs.isEmpty then .error .empty
  else if maxLength < source.utf8ByteSize then .error (.tooLong source.utf8ByteSize maxLength)
  else if maxGroupDepth < groupDepth cs then .error (.tooDeep maxGroupDepth)
  else if hasNestedQuantifier cs then .error .nestedQuantifier
  else
    match Regex.compile cs with
    | .ok p => .ok p
    | .error e => .error (.invalid e)

end Pattern

/-- A text with the program that matches it. The pattern of a text is the one that
the guard makes. -/
structure Pattern where
  source : String
  program : Regex.Program

namespace Pattern

/-- Patterns are compared by their text. -/
instance : BEq Pattern := ⟨fun p q => p.source == q.source⟩

/-- The pattern of a text, unless the guard refuses it. -/
def ofText (source : String) : Except PatternError Pattern :=
  match vet source with
  | .ok program => .ok ⟨source, program⟩
  | .error e => .error e

/-- Whether a pattern matches somewhere in a text. -/
def isMatch (p : Pattern) (text : String) : Bool :=
  p.program.matches text.toList

end Pattern

end TraceCheck
