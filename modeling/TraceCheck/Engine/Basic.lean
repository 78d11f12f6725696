import TraceCheck.Rule.Directory
import TraceCheck.Rule.Id
import TraceCheck.Rule.Store
import TraceCheck.Violation

/-!
# Engines

An engine keeps rules and evaluates traces with those of them that are enabled. The
operations give their result together with the engine afterwards; one without a result
leaves the rules as they are, but for loading a directory that is given up midway.
-/

namespace TraceCheck

/-- Rules, the limits under which they are read and traces evaluated, and the identifiers
for rules without one. -/
structure Engine where
  limits : Limits := {}
  store : RuleStore := ∅
  ids : IdSupply := {}

namespace Engine

/-- What checking the text of a rule yields. -/
def check (e : Engine) (source : String) (clock : Clock := .still) : Verdict :=
  TraceCheck.check e.limits source clock

/-- The rule of a text alone, under a new identifier, which also is its name. It is not
stored. -/
def compile (e : Engine) (source : String) (clock : Clock := .still) :
    Except (List Diagnostic) Rule × Engine :=
  let (id, ids) := e.ids.take
  let d : Definition := { name := id, expression := source }
  (d.compile e.limits id clock, { e with ids })

/-- The rule of a definition, under its identifier or a new one. It is not stored. -/
def compileDefinition (e : Engine) (d : Definition) (clock : Clock := .still) :
    Except EngineError Rule × Engine :=
  let (id, ids) := e.ids.resolve d.id
  ((d.compile e.limits id clock).mapError (.compilation id), { e with ids })

/-- Store a rule. -/
def insert (e : Engine) (r : Rule) : Engine :=
  { e with store := e.store.insert r }

/-- Store the rule of a definition. -/
def add (e : Engine) (d : Definition) (clock : Clock := .still) :
    Except EngineError Rule × Engine :=
  match e.compileDefinition d clock with
  | (.ok r, e) => (.ok r, e.insert r)
  | (.error f, e) => (.error f, e)

/-- Store the rule of a definition; the result is the rule whose place it takes. -/
def replace (e : Engine) (d : Definition) (clock : Clock := .still) :
    Except EngineError (Option Rule) × Engine :=
  match e.compileDefinition d clock with
  | (.ok r, e) => (.ok (e.store.get? r.id), e.insert r)
  | (.error f, e) => (.error f, e)

/-- Remove the rule of an identifier. -/
def remove (e : Engine) (id : String) : Except EngineError Rule × Engine :=
  match e.store.get? id with
  | some r => (.ok r, { e with store := e.store.erase id })
  | none => (.error (.ruleNotFound id), e)

/-- Set whether the rule of an identifier is evaluated. -/
def setEnabled (e : Engine) (id : String) (enabled : Bool) : Except EngineError Unit × Engine :=
  match e.store.setEnabled? id enabled with
  | some store => (.ok (), { e with store })
  | none => (.error (.ruleNotFound id), e)

/-- Store the rule of an entry of a file. -/
def addEntry (e : Engine) : Except EngineError Definition → Except EngineError Rule × Engine
  | .ok d => e.add d
  | .error f => (.error f, e)

/-- Store the rules of some definitions. What fails ends this if `failFast` is set, and else
is noted in the report. -/
def loadEntries (failFast : Bool) :
    Engine → List (Except EngineError Definition) → LoadReport →
      Except EngineError LoadReport × Engine
  | e, [], report => (.ok report, e)
  | e, entry :: rest, report =>
    let (result, e) := e.addEntry entry
    match result with
    | .ok _ => loadEntries failFast e rest { report with loaded := report.loaded + 1 }
    | .error f =>
      if failFast then (.error f, e)
      else loadEntries failFast e rest { report with failed := report.failed ++ [f] }

/-- Store the rules of a directory. -/
def load (e : Engine) (dir : RuleDirectory) (failFast : Bool) :
    Except EngineError LoadReport × Engine :=
  match dir.files with
  | none => (.error (.unreadable dir.name "rule directory not found"), e)
  | some files =>
    let files := RuleDirectory.sortedFiles files
    loadEntries failFast e (files.flatMap dir.entriesOf) { files := files.length }

/-- The engine with the rules of some directories. What cannot be loaded is passed over,
unless `failFast` is set. -/
def ofDirectories (limits : Limits) (ids : IdSupply) (failFast : Bool)
    (dirs : List RuleDirectory) : Except EngineError Engine :=
  dirs.foldlM (fun e dir =>
    match e.load dir failFast with
    | (.ok _, e) => .ok e
    | (.error f, e) => if failFast then .error f else .ok e) { limits, ids }

/-- The violations of the enabled rules by a trace, in the order of the identifiers. -/
def violations (e : Engine) (t : Trace) : List Violation :=
  let index := SpanIndex.ofTrace t
  e.store.enabled.filterMap fun r =>
    let evaluation := index.evaluate r.ast
    if evaluation.violated then some (.ofEvaluation r t evaluation) else none

/-- The violations by a trace that is not too large. -/
def evaluate (e : Engine) (t : Trace) : Except EngineError (List Violation) :=
  match e.limits.excess? t with
  | some excess => .error (.resourceLimit excess)
  | none => .ok (e.violations t)

end Engine

end TraceCheck
