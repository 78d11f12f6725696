import TraceCheck.Json.Decoder
import TraceCheck.Yaml.Decoder
import TraceCheck.Yaml.Encoding

/-!
# Definitions of rules

A rule as its author writes it, before its expression is read. Files hold one
definition or a list of them; whatever is wrong with a file is reported as for one
definition.
-/

namespace TraceCheck

/-- How grave a violation of a rule is. -/
inductive Severity where
  | low
  | medium
  | high
  | critical
  deriving DecidableEq, Repr

namespace Severity

/-- The name of a severity. -/
def name : Severity → String
  | .low => "low"
  | .medium => "medium"
  | .high => "high"
  | .critical => "critical"

/-- The severities by name. -/
def names : List (String × Severity) :=
  [("low", low), ("medium", medium), ("high", high), ("critical", critical)]

end Severity

/-- A rule as its author writes it. -/
structure Definition where
  /-- A new one is made when there is none. -/
  id : Option String := none
  name : String
  description : String := ""
  severity : Severity := .medium
  /-- The text of the rule. -/
  expression : String
  enabled : Bool := true
  deriving DecidableEq, Repr

/-- A definition of which some fields are known. -/
structure DefinitionDraft where
  id : Option (Option String) := none
  name : Option String := none
  description : Option String := none
  severity : Option Severity := none
  expression : Option String := none
  enabled : Option Bool := none

namespace DefinitionDraft

/-- The fields of a definition in YAML. -/
def yamlFields : List (Yaml.Field DefinitionDraft) :=
  [ .of "id" false (.optional .string) (·.id) fun d a => { d with id := some a },
    .of "name" true .string (·.name) fun d a => { d with name := some a },
    .of "description" false .string (·.description) fun d a => { d with description := some a },
    .of "severity" false (.enumeration Severity.names) (·.severity) fun d a =>
      { d with severity := some a },
    .of "expression" true .string (·.expression) fun d a => { d with expression := some a },
    .of "enabled" false .boolean (·.enabled) fun d a => { d with enabled := some a } ]

/-- The fields of a definition in JSON. -/
def jsonFields : List (Json.Field DefinitionDraft) :=
  [ .of ["id"] false (.optional .string) (·.id) fun d a => { d with id := some a },
    .of ["name"] true .string (·.name) fun d a => { d with name := some a },
    .of ["description"] false .string (·.description) fun d a =>
      { d with description := some a },
    .of ["severity"] false (.enumeration Severity.names) (·.severity) fun d a =>
      { d with severity := some a },
    .of ["expression"] true .string (·.expression) fun d a => { d with expression := some a },
    .of ["enabled"] false .boolean (·.enabled) fun d a => { d with enabled := some a } ]

/-- The definition, with defaults for the fields that are not known. -/
def finish (d : DefinitionDraft) : Definition :=
  { id := d.id.join
    name := d.name.getD ""
    description := d.description.getD ""
    severity := d.severity.getD .medium
    expression := d.expression.getD ""
    enabled := d.enabled.getD true }

end DefinitionDraft

namespace Definition

/-- Definitions in YAML. -/
def yamlDecoder : Yaml.Decoder Definition :=
  .record "struct RuleDefinition" DefinitionDraft.yamlFields {} DefinitionDraft.finish

/-- Definitions in JSON. -/
def jsonDecoder : Json.Decoder Definition :=
  .record "struct RuleDefinition" DefinitionDraft.jsonFields {} DefinitionDraft.finish

/-- A definition as a structured value. -/
def json (d : Definition) : Json :=
  .object
    [ ("id", (d.id.map Json.string).getD .null), ("name", .string d.name),
      ("description", .string d.description), ("severity", .string d.severity.name),
      ("expression", .string d.expression), ("enabled", .bool d.enabled) ]

/-- The definitions in a value without a type: a list of them, or a single one. -/
def ofContent? (c : Yaml.Content) : Option (List Definition) :=
  ((Yaml.Decoder.list yamlDecoder).fromContent c).or
    ((yamlDecoder.fromContent c).map fun d => [d])

/-- The definitions in a document. -/
def ofDocument (d : Yaml.Document) : Except Yaml.Fault (List Definition) :=
  match (Yaml.Content.ofDocument? d).bind ofContent? with
  | some ds => .ok ds
  | none => (Yaml.Decoder.decodeDocument yamlDecoder d).map fun d => [d]

/-- The definitions in a text. -/
def ofYaml (text : String) : Except Yaml.Fault (List Definition) :=
  ofDocument (.ofText text)

/-- The definitions in the bytes of a file. -/
def ofBytes (bytes : ByteArray) : Except Yaml.Fault (List Definition) :=
  ofDocument (.ofBytes bytes)

end Definition

end TraceCheck
