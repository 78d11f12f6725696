import TraceCheck.Text.Blank

/-!
# Diagnostics

A diagnostic is a message about a range of the text of a rule. Lines and columns
count from one, the end column is the first one behind the range.
`Diagnostic.showIn` prints a diagnostic with the line it is about.
-/

namespace TraceCheck

/-- How grave a diagnostic is. -/
inductive Level where
  /-- The rule is not valid. -/
  | error
  /-- Probably a mistake. -/
  | warning
  /-- A matter of style. -/
  | info
  deriving DecidableEq, Repr

/-- The name of a level. -/
def Level.name : Level → String
  | .error => "error"
  | .warning => "warning"
  | .info => "info"

/-- A message about a range of a text. -/
structure Diagnostic where
  line : Nat
  column : Nat
  endLine : Nat
  endColumn : Nat
  message : String
  level : Level
  suggestion : Option String
  deriving DecidableEq, Repr

namespace Diagnostic

/-- A diagnostic about `length` columns from a place on, at least one. -/
def spanning (level : Level) (line column length : Nat) (message : String)
    (suggestion : Option String) : Diagnostic :=
  { line, column, endLine := line, endColumn := column + max length 1, message, level,
    suggestion }

/-- An error about the text as a whole, placed at its first character. -/
def wholeInput (message : String) (suggestion : Option String) : Diagnostic :=
  spanning .error 1 1 1 message suggestion

/-- Whether the diagnostic makes a rule invalid. -/
def isError (d : Diagnostic) : Bool :=
  d.level = .error

/-- The diagnostic in one line. -/
def summary (d : Diagnostic) : String :=
  toString d.line ++ ":" ++ toString d.column ++ ": " ++ d.level.name ++ ": " ++ d.message

/-- The number of carets under a line of some length: the width of the range, but
not beyond the end of the line, and at least one. -/
def caretCount (d : Diagnostic) (length : Nat) : Nat :=
  min (max (d.endColumn - d.column) 1) (max (length - (d.column - 1)) 1)

/-- The line of the source that the diagnostic is about. -/
def sourceLine? (d : Diagnostic) (source : String) : Option (List Char) :=
  (Text.lines source.toList)[d.line - 1]?

/-- The diagnostic with its line of the source, carets under its range, and the
suggestion. -/
def showIn (d : Diagnostic) (source : String) : String :=
  let head := d.level.name ++ " at line " ++ toString d.line ++ ", column " ++
    toString d.column ++ ": " ++ d.message
  let excerpt := match d.sourceLine? source with
    | some line =>
      "\n  " ++ String.ofList line ++ "\n  " ++
        String.ofList (List.replicate (d.column - 1) ' ' ++
          List.replicate (d.caretCount line.length) '^')
    | none => ""
  let hint := match d.suggestion with
    | some s => "\n  suggestion: " ++ s
    | none => ""
  head ++ excerpt ++ hint

end Diagnostic

end TraceCheck
