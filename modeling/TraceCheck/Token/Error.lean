import TraceCheck.Diagnostic

/-!
# Errors in the spelling of a rule

What can be wrong with the characters of a rule text before its grammar is
looked at. Two of the errors concern the text as a whole.
-/

namespace TraceCheck

/-- What is wrong with the characters of a rule text. -/
inductive LexicalError where
  /-- A string is open at the end of the text. -/
  | unterminatedString
  /-- A word has more characters than the limit. -/
  | identifierTooLong (limit : Nat)
  /-- The content of a string has more characters than the limit. -/
  | stringTooLong (limit : Nat)
  /-- A character that begins no token, and the word around it, both as messages
  quote them. -/
  | unexpectedCharacter (shown word : String) (isAssignment : Bool)
  /-- The text has more bytes than the limit. -/
  | inputTooLarge (bytes limit : Nat)
  /-- The time is used up. -/
  | timeout (limitMs : Nat)
  deriving DecidableEq, Repr

namespace LexicalError

/-- The words for an error. -/
def message : LexicalError → String
  | .unterminatedString => "Unterminated string literal"
  | .identifierTooLong limit =>
    "Identifier exceeds maximum length of " ++ toString limit ++ " characters"
  | .stringTooLong limit =>
    "String literal exceeds maximum length of " ++ toString limit ++ " characters"
  | .unexpectedCharacter shown word _ =>
    "Unexpected character '" ++ shown ++ "' in '" ++ word ++ "'"
  | .inputTooLarge bytes limit =>
    "Rule text is " ++ toString bytes ++ " bytes, exceeding the maximum of " ++
      toString limit ++ " bytes"
  | .timeout limitMs => "Rule parsing timed out after " ++ toString limitMs ++ "ms"

/-- What to do about an error. -/
def suggestion : LexicalError → String
  | .unterminatedString => "Close the string with a matching '\"'"
  | .identifierTooLong _ => "Use a shorter span or attribute name"
  | .stringTooLong _ => "Shorten the string value"
  | .unexpectedCharacter _ _ isAssignment =>
    if isAssignment then "Use '==' to compare values"
    else "Remove the character or wrap the value in double quotes"
  | .inputTooLarge _ _ => "Split the rule into several smaller rules"
  | .timeout _ => "Simplify the rule expression"

/-- Whether an error concerns the text as a whole. -/
def isFatal : LexicalError → Bool
  | .inputTooLarge _ _ => true
  | .timeout _ => true
  | _ => false

/-- The error as a diagnostic at a place. -/
def diagnostic (e : LexicalError) (line column length : Nat) : Diagnostic :=
  if e.isFatal then .wholeInput e.message (some e.suggestion)
  else .spanning .error line column length e.message (some e.suggestion)

end LexicalError

end TraceCheck
