import TraceCheck.Engine.Basic
import TraceCheck.Engine.Event

/-!
# Journals

The events of loading rules and of evaluating a trace, in the order in which they happen.
-/

namespace TraceCheck

namespace Engine

/-- The events of storing the rule of an entry of a file. -/
def entryEvents (e : Engine) (failFast : Bool) (path : String) :
    Except EngineError Definition → List Event
  | .error f =>
    if failFast then []
    else
      [{ message := "skipping rule file"
         fields := [("path", .string path), ("error", .string f.message)] }]
  | .ok d =>
    match e.compileDefinition d with
    | (.error (.compilation id errors), _) =>
      [{ message := "rule failed to compile"
         fields := [("rule_id", .string id), ("errors", .int errors.length)] }]
    | (.error _, _) => []
    | (.ok r, _) =>
      { level := .debug, message := "compiled rule"
        fields := [("rule_id", .string r.id), ("warnings", .int r.warnings.length)] } ::
        match e.store.get? r.id with
        | some old =>
          [{ message := "duplicate rule id replaced"
             fields := [("rule_id", .string old.id), ("path", .string path)] }]
        | none => []

/-- The events of storing the rules of the entries of some files. -/
def entriesEvents (failFast : Bool) :
    Engine → List (String × Except EngineError Definition) → List Event
  | _, [] => []
  | e, (path, entry) :: rest =>
    let events := e.entryEvents failFast path entry
    let (result, e) := e.addEntry entry
    if failFast && !result.toBool then events else events ++ entriesEvents failFast e rest

/-- The events of loading a directory. -/
def loadEvents (e : Engine) (dir : RuleDirectory) (failFast : Bool) : List Event :=
  let entries := (RuleDirectory.sortedFiles (dir.files.getD [])).flatMap fun f =>
    (dir.entriesOf f).map fun entry => (dir.pathOf f, entry)
  entriesEvents failFast e entries ++
    match (e.load dir failFast).1 with
    | .ok report =>
      [{ level := .info, message := "loaded rule directory"
         fields :=
          [ ("dir", .string dir.name), ("files", .int report.files),
            ("loaded", .int report.loaded), ("failed", .int report.failed.length) ] }]
    | .error _ => []

/-- The events of loading some directories one after the other. -/
def directoriesEvents (failFast : Bool) : Engine → List RuleDirectory → List Event
  | e, [] =>
    [{ level := .info, message := "rule engine ready"
       fields := [("rules", .int e.store.size)] }]
  | e, dir :: rest =>
    let events := e.loadEvents dir failFast
    match e.load dir failFast with
    | (.ok _, e) => events ++ directoriesEvents failFast e rest
    | (.error f, e) =>
      if failFast then events
      else
        let event : Event :=
          { message := "failed to load rules"
            fields := [("dir", .string dir.name), ("error", .string f.message)] }
        events ++ event :: directoriesEvents failFast e rest

/-- The events of evaluating a trace. -/
def evaluationEvents (e : Engine) (t : Trace) : List Event :=
  match e.limits.excess? t with
  | some x => [x.event t.traceId]
  | none =>
    let foreign := t.foreignSpans.length
    (if foreign = 0 then []
      else
        [{ level := .debug, message := "trace contains spans of other traces"
           fields := [("trace_id", .string t.traceId), ("foreign", .int foreign)] }]) ++
      [{ level := .debug, message := "evaluated trace"
         fields :=
          [ ("trace_id", .string t.traceId), ("rules", .int e.store.enabled.length),
            ("violations", .int (e.violations t).length) ] }]

end Engine

/-- The event about a trace that is passed over. -/
def Excess.skipEvent (x : Excess) (traceId : String) : Event :=
  { message := "trace skipped"
    fields := [("trace_id", .string traceId), ("reason", .string x.message)] }

end TraceCheck
