import TraceCheck.Command.Check

/-!
# Arguments of the command line

Options stand anywhere after the word of the command they belong to; those for the
configuration and for debugging stand anywhere. The value of an option follows it, or stands
behind an equals sign.
-/

namespace TraceCheck

/-- What is to be done. -/
inductive Task where
  /-- Check the rule in a file, or on standard input if it is named `-`. -/
  | check (input : String) (format : ReportFormat)
  /-- Evaluate the traces in a file, or on standard input, with the rules of directories. -/
  | eval (rules : List String) (traces : Option String)
  deriving DecidableEq, Repr

/-- The command line as it is understood. -/
structure Arguments where
  config : Option String := none
  debug : Bool := false
  task : Task
  deriving DecidableEq, Repr

/-- What is known of the arguments so far. -/
structure ArgumentsDraft where
  config : Option String := none
  debug : Bool := false
  command : Option String := none
  input : Option String := none
  format : Option ReportFormat := none
  rules : List String := []
  traces : Option String := none
  /-- The option whose value comes next. -/
  pending : Option String := none

namespace ArgumentsDraft

/-- Take in an option with its value. -/
def option? (d : ArgumentsDraft) (name value : String) : Option ArgumentsDraft :=
  if name = "--config" || name = "-c" then some { d with config := some value }
  else match d.command, name with
    | some "check", "--format" | some "check", "-f" =>
      (ReportFormat.names.lookup value).map fun format => { d with format := some format }
    | some "eval", "--rules" | some "eval", "-r" => some { d with rules := d.rules ++ [value] }
    | some "eval", "--traces" | some "eval", "-t" => some { d with traces := some value }
    | _, _ => none

/-- Take in a word that is not an option: the command, and then its input. -/
def word? (d : ArgumentsDraft) (word : String) : Option ArgumentsDraft :=
  match d.command, d.input with
  | none, _ =>
    if word = "check" || word = "eval" then some { d with command := some word } else none
  | some "check", none => some { d with input := some word }
  | _, _ => none

/-- Whether an argument is an option. A lone dash is the name of an input. -/
def isOption (argument : String) : Bool :=
  argument.startsWith "-" && argument ≠ "-"

/-- The name and the value of an option with an equals sign. -/
def nameAndValue? (argument : String) : Option (String × String) :=
  match argument.splitOn "=" with
  | name :: value :: rest => some (name, "=".intercalate (value :: rest))
  | _ => none

/-- Take in an argument. -/
def step? (d : ArgumentsDraft) (argument : String) : Option ArgumentsDraft :=
  match d.pending with
  | some name => { d with pending := none }.option? name argument
  | none =>
    if argument = "--debug" || argument = "-d" then some { d with debug := true }
    else if isOption argument then
      match nameAndValue? argument with
      | some (name, value) => d.option? name value
      | none => some { d with pending := some argument }
    else d.word? argument

/-- The task, if it is known. -/
def task? (d : ArgumentsDraft) : Option Task :=
  match d.pending, d.command with
  | none, some "check" => d.input.map fun input => .check input (d.format.getD .text)
  | none, some "eval" => some (.eval d.rules d.traces)
  | _, _ => none

end ArgumentsDraft

namespace Arguments

/-- How the command is called. -/
def usage : String :=
  "usage: tracecheck [--config FILE] [--debug] check INPUT [--format text|json|html|markdown]\n" ++
  "       tracecheck [--config FILE] [--debug] eval [--rules DIRECTORY]... [--traces FILE]"

/-- The arguments in a list of words. -/
def ofList? (words : List String) : Option Arguments := do
  let d ← words.foldlM ArgumentsDraft.step? {}
  return { config := d.config, debug := d.debug, task := ← d.task? }

end Arguments

end TraceCheck
