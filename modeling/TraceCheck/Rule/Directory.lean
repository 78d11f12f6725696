import TraceCheck.Engine.Error
import TraceCheck.Rule.Definition
import TraceCheck.Text.Stream

/-!
# Directories with rules

The rules of a directory are in the files below it whose names end in `.yml` or `.yaml`.
They are taken in the order of the paths, which are compared name by name, and within a
file as they are written.
-/

namespace TraceCheck

/-- A file below a directory. -/
structure RuleFile where
  /-- The names on the way from the directory to the file. -/
  path : List String
  /-- What can be read, or why it cannot be opened. -/
  content : Except String Stream

/-- A directory with all files below it, or the place where a directory should be. -/
structure RuleDirectory where
  name : String
  files : Option (List RuleFile)

/-- What follows the last dot of a name, unless there is none or nothing in front of it. -/
def extension? (name : String) : Option String :=
  let (reversed, before) := name.toList.reverse.span (· != '.')
  match before with
  | '.' :: _ :: _ => some (String.ofList reversed.reverse)
  | _ => none

/-- The definitions in the content of a file. -/
def definitionsOfFile (path : String) (content : Except String Stream) :
    Except EngineError (List Definition) :=
  match content.bind Stream.all with
  | .error reason => .error (.unreadable path reason)
  | .ok bytes => (Definition.ofBytes bytes).mapError (.ruleFile path)

namespace RuleFile

/-- Whether a path is one of a file with rules. -/
def holdsRules (path : List String) : Bool :=
  match path.getLast? with
  | some name => extension? name = some "yml" || extension? name = some "yaml"
  | none => false

end RuleFile

namespace RuleDirectory

/-- The path of a file as it is shown. -/
def pathOf (dir : RuleDirectory) (f : RuleFile) : String :=
  dir.name ++ (if dir.name.endsWith "/" then "" else "/") ++ "/".intercalate f.path

/-- The files with rules in the order of their paths. -/
def sortedFiles (files : List RuleFile) : List RuleFile :=
  (files.filter fun f => RuleFile.holdsRules f.path).mergeSort fun a b =>
    !List.lex b.path a.path fun s t => decide (s < t)

/-- The definitions of a file, or in their place the reason why there are none. -/
def entriesOf (dir : RuleDirectory) (f : RuleFile) : List (Except EngineError Definition) :=
  match definitionsOfFile (dir.pathOf f) f.content with
  | .ok ds => ds.map .ok
  | .error e => [.error e]

end RuleDirectory

/-- What loading a directory comes to. -/
structure LoadReport where
  /-- The number of files with rules. -/
  files : Nat
  /-- The number of rules that were stored. -/
  loaded : Nat := 0
  /-- Why other files and definitions were not, in order. -/
  failed : List EngineError := []

end TraceCheck
