import TraceCheck.Json.Value
import TraceCheck.Verdict

/-!
# Verdicts as structured values

The form in which editors read diagnostics, expressions and verdicts. Patterns
stand as their text, and numbers that are not finite as null.
-/

namespace TraceCheck

/-- A diagnostic as a structured value. -/
def Diagnostic.json (d : Diagnostic) : Json :=
  .object <|
    [ ("line", .int d.line), ("column", .int d.column), ("endLine", .int d.endLine),
      ("endColumn", .int d.endColumn), ("message", .string d.message),
      ("severity", .string d.level.name) ] ++
    Json.optional "suggestion" (d.suggestion.map .string)

mutual

/-- A literal as a structured value. -/
def Literal.json : Literal → Json
  | .string s => .string s
  | .number x => .double x
  | .bool b => .bool b
  | .list items => .array (literalsJson items)
  | .pattern p => .string p.source

/-- Literals as structured values. -/
def literalsJson : List Literal → List Json
  | [] => []
  | x :: rest => x.json :: literalsJson rest

end

/-- A test as a structured value. -/
def Test.json : Test → Json
  | .truthy => .object [("kind", .string "truthy")]
  | .compare op value =>
    .object [("kind", .string "compare"), ("operator", .string op.name), ("value", value.json)]

/-- A clause as a structured value. -/
def Clause.json (c : Clause) : Json :=
  .object [("attribute", .string c.name), ("test", c.test.json), ("negated", .bool c.negated)]

/-- What a count is compared with, as a structured value. -/
def CountOperand.json : CountOperand → Json
  | .literal value => .object [("kind", .string "literal"), ("value", .int value)]
  | .count spanName => .object [("kind", .string "count"), ("spanName", .string spanName)]

/-- An expression as a structured value. -/
def Expr.json : Expr → Json
  | .binary op l r =>
    .object [("type", .string "binary"), ("operator", .string op.name), ("left", l.json),
      ("right", r.json)]
  | .not e => .object [("type", .string "not"), ("inner", e.json)]
  | .has spanName clauses =>
    .object [("type", .string "has"), ("spanName", .string spanName),
      ("whereClauses", .array (clauses.map Clause.json))]
  | .count spanName op operand =>
    .object [("type", .string "count"), ("spanName", .string spanName),
      ("operator", .string op.name), ("operand", operand.json)]

/-- A verdict as a structured value. -/
def Verdict.json (v : Verdict) : Json :=
  .object <|
    [ ("valid", .bool v.isValid), ("errors", .array (v.errors.map Diagnostic.json)),
      ("warnings", .array (v.warnings.map Diagnostic.json)) ] ++
    Json.optional "ast" (v.ast.map Expr.json)

end TraceCheck
