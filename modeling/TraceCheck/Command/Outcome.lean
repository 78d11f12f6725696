import TraceCheck.Config
import TraceCheck.Engine.Event
import TraceCheck.Text.Stream

/-!
# Outcomes of commands

What a command writes and the code with which it ends. A command that fails says what it
was about to do and what caused the failure, down to the first cause.
-/

namespace TraceCheck

/-- Why a command failed. -/
structure Failure where
  /-- What the command was about to do, or what failed if that is not said. -/
  context : String
  /-- The causes, each caused by the next one. -/
  causes : List String

namespace Failure

/-- An engine refused something while a command was doing something else. -/
def ofError (context : String) (e : EngineError) : Failure :=
  ⟨context, e.causes⟩

/-- A text with a mark in front of its first line and blanks of the same width in front of
the others. -/
def hang (mark text : String) : String :=
  mark ++ ("\n" ++ String.ofList (List.replicate mark.length ' ')).intercalate
    (text.splitOn "\n")

/-- The mark in front of a cause that is one of several. -/
def numberMark (n : Nat) : String :=
  let digits := toString n
  String.ofList (List.replicate (5 - digits.length) ' ') ++ digits ++ ": "

/-- The causes as they are shown, numbered if there are several. -/
def causeLines : List String → List String
  | [cause] => [hang "    " cause]
  | causes => causes.zipIdx.map fun (cause, n) => hang (numberMark n) cause

/-- A failure as it is shown. -/
def text (f : Failure) : String :=
  "Error: " ++ f.context ++ "\n" ++
    if f.causes.isEmpty then ""
    else "\nCaused by:\n" ++ String.join ((causeLines f.causes).map (· ++ "\n"))

end Failure

/-- What a command has to say beside its output. -/
inductive Notice where
  | text (s : String)
  | event (e : Event)

/-- What a command writes and the code with which it ends. -/
structure Outcome where
  code : Nat
  output : String := ""
  notices : List Notice := []

namespace Outcome

/-- The outcome of a command that fails at once. -/
def ofFailure (f : Failure) : Outcome :=
  { code := 1, notices := [.text f.text] }

/-- The outcome of a command that may fail before it starts. -/
def ofExcept : Except Failure Outcome → Outcome
  | .ok o => o
  | .error f => ofFailure f

end Outcome

/-- What a command is to read. -/
structure Input where
  name : String
  /-- What can be read, or why it cannot be opened. -/
  content : Except String Stream

/-- The text of an input as a whole. -/
def Input.read (i : Input) (context : String) : Except Failure String :=
  (i.content.bind Stream.text).mapError fun reason => ⟨context, [reason]⟩

/-- What can be read from an input. -/
def Input.opened (i : Input) (context : String) : Except Failure Stream :=
  i.content.mapError fun reason => ⟨context, [reason]⟩

/-- The configuration in an input. -/
def Config.ofInput (i : Input) : Except EngineError Config :=
  match i.content.bind Stream.all with
  | .ok bytes => (ofBytes bytes).mapError .config
  | .error reason => .error (.unreadable i.name reason)

/-- The configuration in an input, on behalf of a command. -/
def Config.load (i : Input) : Except Failure Config :=
  (ofInput i).mapError (.ofError ("loading configuration " ++ i.name))

end TraceCheck
