import TraceCheck.Command.Arguments
import TraceCheck.Command.Eval

/-!
# Command line

Reads the files that the arguments name and shows the outcome of the command. Everything
that is decided is decided elsewhere.
-/

namespace TraceCheck

/-- Why something could not be read, in the words of the operating system. -/
def reasonOf : IO.Error → String
  | .noFileOrDirectory _ code _ => "No such file or directory (os error " ++ toString code ++ ")"
  | .permissionDenied _ code _ => "Permission denied (os error " ++ toString code ++ ")"
  | e => toString e

/-- The result of an action, or why there is none. -/
def attempt {α : Type} (action : IO α) : IO (Except String α) := do
  match ← action.toBaseIO with
  | .ok a => return .ok a
  | .error e => return .error (reasonOf e)

/-- What can be read in pieces, behind what has been read. -/
partial def readStream (piece : IO ByteArray) (sofar : ByteArray) : IO Stream := do
  match ← attempt piece with
  | .error reason => return { bytes := sofar, failure := some reason }
  | .ok bytes =>
    if bytes.isEmpty then return { bytes := sofar }
    readStream piece (sofar ++ bytes)

/-- The number of bytes of a piece. -/
def pieceSize : USize := 65536

/-- What can be read from a file. -/
def openFile (name : String) : IO (Except String Stream) := do
  match ← attempt (IO.FS.Handle.mk name .read) with
  | .error reason => return .error reason
  | .ok handle => return .ok (← readStream (handle.read pieceSize) .empty)

/-- The input that is a file. -/
def readInput (name : String) : IO Input := do
  return { name, content := ← openFile name }

/-- The input that is standard input. -/
def standardInput : IO Input := do
  let stream ← IO.getStdin
  return { name := "-", content := .ok (← readStream (stream.read pieceSize) .empty) }

/-- The files with rules below a directory, `before` being the way to it. -/
partial def readRuleFiles (directory : String) (before : List String) : IO (List RuleFile) := do
  let entries ← (← IO.FS.realPath directory).readDir
  let found ← entries.toList.mapM fun entry => do
    let path := before ++ [entry.fileName]
    let name := directory ++ "/" ++ entry.fileName
    match (← entry.path.symlinkMetadata).type with
    | .dir => readRuleFiles name path
    | .file =>
      if RuleFile.holdsRules path then
        return [{ path, content := ← openFile name }]
      else return []
    | _ => return []
  return found.flatten

/-- A directory with rules. -/
def readRuleDirectory (name : String) : IO RuleDirectory := do
  return { name, files := (← attempt (readRuleFiles name [])).toOption }

/-- Check the rule in a file or on standard input. -/
def runCheck (config : Config) (input : String) (format : ReportFormat) : IO Outcome := do
  let (source, context) ←
    if input = "-" then pure (← standardInput, "reading rule from stdin")
    else pure (← readInput input, "reading rule file " ++ input)
  return .ofExcept ((source.read context).map (checkCommand config format))

/-- Evaluate the traces in a file or on standard input. -/
def runEval (config : Config) (rules : List String) (traces : Option String) : IO Outcome := do
  let dirs ← (config.ruleDirs ++ rules).mapM readRuleDirectory
  let ids : IdSupply := { next := ← IO.rand 0 (1 <<< 60) }
  let traces ← match traces with
    | some name => readInput name
    | none => standardInput
  return evalCommand config ids dirs traces

/-- Do what the arguments say. -/
def runTask (a : Arguments) : IO Outcome := do
  let config ← match a.config with
    | some name => pure (Config.load (← readInput name))
    | none => pure (.ok {})
  match config, a.task with
  | .error f, _ => return .ofFailure f
  | .ok config, .check input format => runCheck config input format
  | .ok config, .eval rules traces => runEval config rules traces

/-- The name of a level, as wide as the others. -/
def EventLevel.label : EventLevel → String
  | .debug => "DEBUG"
  | .info => " INFO"
  | .warn => " WARN"

/-- Show a notice. An event is put behind the time since the start of the machine. -/
def presentNotice (debug : Bool) : Notice → IO Unit
  | .text s => IO.eprint s
  | .event e => do
    if e.isShown debug then
      IO.eprintln (toString (← IO.monoMsNow) ++ " " ++ e.level.label ++ " " ++ e.text)

/-- Show an outcome. -/
def present (debug : Bool) (o : Outcome) : IO UInt32 := do
  o.notices.forM (presentNotice debug)
  (← IO.getStdout).putStr o.output
  return o.code.toUInt32

end TraceCheck

/-- The command line. -/
def main (arguments : List String) : IO UInt32 := do
  match TraceCheck.Arguments.ofList? arguments with
  | some a => TraceCheck.present a.debug (← TraceCheck.runTask a)
  | none =>
    IO.eprintln TraceCheck.Arguments.usage
    return 2
