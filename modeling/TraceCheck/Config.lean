import TraceCheck.Limits
import TraceCheck.Yaml.Decoder
import TraceCheck.Yaml.Encoding

/-!
# Configuration

The settings of an engine in YAML. Every setting has a default, and an empty text is a
configuration.
-/

namespace TraceCheck

/-- The settings of an engine. -/
structure Config where
  /-- Directories with rules that are loaded at the start. -/
  ruleDirs : List String := []
  /-- Whether a rule that cannot be loaded stops the start. -/
  failOnParseError : Bool := false
  /-- The number of workers, if it is set. -/
  workerThreads : Option Nat := none
  limits : Limits := {}
  deriving DecidableEq, Repr

/-- Limits of which some are set. -/
structure LimitsDraft where
  maxTotalLength : Option Nat := none
  maxIdentifierLength : Option Nat := none
  maxStringLength : Option Nat := none
  maxRecursionDepth : Option Nat := none
  maxParseTimeMs : Option Nat := none
  maxSpansPerTrace : Option Nat := none
  maxAttributesPerSpan : Option Nat := none
  maxMessageLength : Option Nat := none

namespace LimitsDraft

/-- A number of things. -/
def size : Yaml.Decoder Nat := .natural "usize"

/-- The limits in YAML. -/
def fields : List (Yaml.Field LimitsDraft) :=
  [ .of "max_total_length" false size (·.maxTotalLength) fun l a =>
      { l with maxTotalLength := some a },
    .of "max_identifier_length" false size (·.maxIdentifierLength) fun l a =>
      { l with maxIdentifierLength := some a },
    .of "max_string_length" false size (·.maxStringLength) fun l a =>
      { l with maxStringLength := some a },
    .of "max_recursion_depth" false size (·.maxRecursionDepth) fun l a =>
      { l with maxRecursionDepth := some a },
    .of "max_parse_time_ms" false (.natural "u64") (·.maxParseTimeMs) fun l a =>
      { l with maxParseTimeMs := some a },
    .of "max_spans_per_trace" false size (·.maxSpansPerTrace) fun l a =>
      { l with maxSpansPerTrace := some a },
    .of "max_attributes_per_span" false size (·.maxAttributesPerSpan) fun l a =>
      { l with maxAttributesPerSpan := some a },
    .of "max_message_length" false size (·.maxMessageLength) fun l a =>
      { l with maxMessageLength := some a } ]

/-- The limits, with defaults for those that are not set. -/
def finish (l : LimitsDraft) : Limits :=
  let d : Limits := {}
  { maxTotalLength := l.maxTotalLength.getD d.maxTotalLength
    maxIdentifierLength := l.maxIdentifierLength.getD d.maxIdentifierLength
    maxStringLength := l.maxStringLength.getD d.maxStringLength
    maxRecursionDepth := l.maxRecursionDepth.getD d.maxRecursionDepth
    maxParseTimeMs := l.maxParseTimeMs.getD d.maxParseTimeMs
    maxSpansPerTrace := l.maxSpansPerTrace.getD d.maxSpansPerTrace
    maxAttributesPerSpan := l.maxAttributesPerSpan.getD d.maxAttributesPerSpan
    maxMessageLength := l.maxMessageLength.getD d.maxMessageLength }

end LimitsDraft

/-- Limits in YAML. -/
def Limits.decoder : Yaml.Decoder Limits :=
  .record "struct Limits" LimitsDraft.fields {} LimitsDraft.finish

/-- A configuration of which some settings are known. -/
structure ConfigDraft where
  ruleDirs : Option (List String) := none
  failOnParseError : Option Bool := none
  workerThreads : Option Nat := none
  limits : Option Limits := none

namespace ConfigDraft

/-- The settings in YAML. -/
def fields : List (Yaml.Field ConfigDraft) :=
  [ .of "rule_dirs" false (.list .string) (·.ruleDirs) fun c a => { c with ruleDirs := some a },
    .of "fail_on_parse_error" false .boolean (·.failOnParseError) fun c a =>
      { c with failOnParseError := some a },
    .of "worker_threads" false LimitsDraft.size (·.workerThreads) fun c a =>
      { c with workerThreads := some a },
    .of "limits" false Limits.decoder (·.limits) fun c a => { c with limits := some a } ]

/-- The configuration, with defaults for the settings that are not known. -/
def finish (c : ConfigDraft) : Config :=
  { ruleDirs := c.ruleDirs.getD []
    failOnParseError := c.failOnParseError.getD false
    workerThreads := c.workerThreads
    limits := c.limits.getD {} }

end ConfigDraft

namespace Config

/-- Configurations in YAML. -/
def decoder : Yaml.Decoder Config :=
  .record "struct EngineConfig" ConfigDraft.fields {} ConfigDraft.finish

/-- The configuration in the bytes of a file. -/
def ofBytes (bytes : ByteArray) : Except Yaml.Fault Config :=
  Yaml.Decoder.decodeDocument decoder (.ofBytes bytes)

end Config

end TraceCheck
