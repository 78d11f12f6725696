import TraceCheck.Diagnostic
import TraceCheck.Expr.Basic

/-!
# Verdicts

What checking the text of a rule yields: the errors, the remarks and, if the
text could be read to its end, the expression.
-/

namespace TraceCheck

/-- What checking the text of a rule yields. An expression that is followed by
something else is kept along with the error. -/
structure Verdict where
  errors : List Diagnostic
  warnings : List Diagnostic
  ast : Option Expr

namespace Verdict

/-- Part diagnostics into errors and remarks. -/
def ofDiagnostics (ds : List Diagnostic) (ast : Option Expr) : Verdict :=
  ⟨ds.filter (·.isError), ds.filter (fun d => !d.isError), ast⟩

/-- The verdict when a text is refused as a whole. -/
def refused (d : Diagnostic) : Verdict :=
  ofDiagnostics [d] none

/-- Whether there are no errors. -/
def isValid (v : Verdict) : Bool :=
  v.errors.isEmpty

/-- All diagnostics, errors first. -/
def diagnostics (v : Verdict) : List Diagnostic :=
  v.errors ++ v.warnings

end Verdict

end TraceCheck
