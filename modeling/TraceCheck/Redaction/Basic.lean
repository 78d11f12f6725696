import TraceCheck.Redaction.Secret

/-!
# Redaction

`redact` replaces everything that looks like a secret by a placeholder
`***REDACTED_…***`. The rules run one after the other over the whole text, those
for wide shapes before those for the narrow shapes that occur inside them.
-/

namespace TraceCheck.Redaction

/-- A rule: the shape of a secret and what takes its place. -/
structure Rule where
  shape : Shape
  replacement : List Char → List Char

/-- The placeholder for a kind of secret. -/
def placeholder (kind : String) : List Char :=
  ("***REDACTED_" ++ kind ++ "***").toList

/-- The rule that replaces the whole secret. -/
def Rule.whole (kind : String) (shape : Shape) : Rule :=
  ⟨shape, fun _ => placeholder kind⟩

/-- The rules in their order. An assigned credential keeps its name, and digits
that are no card number stay. -/
def rules : List Rule :=
  [ .whole "PRIVATE_KEY" privateKey,
    .whole "CONNECTION_STRING" connectionString,
    .whole "JWT" signedToken,
    .whole "API_KEY" apiKey,
    .whole "AWS_KEY" cloudKey,
    .whole "TOKEN" bearerToken,
    ⟨credential, fun cs => credentialName cs ++ placeholder "SECRET"⟩,
    .whole "EMAIL" mailAddress,
    ⟨cardNumber, fun cs => if isCard cs then placeholder "CARD" else cs⟩,
    .whole "SSN" socialSecurityNumber ]

/-- Apply one rule. -/
def Rule.apply (r : Rule) (cs : List Char) : List Char :=
  r.shape.replace r.replacement cs

/-- Apply all rules to a list of characters. -/
def redactChars (cs : List Char) : List Char :=
  rules.foldl (fun cs r => r.apply cs) cs

/-- Replace everything in a text that looks like a secret. -/
def redact (s : String) : String :=
  String.ofList (redactChars s.toList)

/-- Whether a text holds something that looks like a secret. -/
def isSensitive (s : String) : Bool :=
  redact s != s

/-- The capitals and underscores in the name of a placeholder. -/
def isKindChar (c : Char) : Bool :=
  c.isUpper || c == '_'

/-- A placeholder of any kind. -/
def anyPlaceholder : Shape := fun _ cs =>
  Remainder.probe do
    let r ← (Remainder.whole cs).after? "***REDACTED_".toList
    let r ← r.afterRun? isKindChar 1
    r.after? "***".toList

end TraceCheck.Redaction
