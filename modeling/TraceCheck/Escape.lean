import TraceCheck.Json.Printer
import TraceCheck.Mismatch
import TraceCheck.Text.Control

/-!
# Escaping for output surfaces

A `Surface` is the place where a text will be shown. Each has its own escapes,
all of them character by character; markdown first shows control characters as
plain text does and then escapes its own marks.
-/

namespace TraceCheck

open TraceCheck.Text

/-- Where a text is shown. -/
inductive Surface where
  /-- Content or attribute values of HTML elements. -/
  | html
  /-- The inside of a JavaScript string. -/
  | javaScript
  /-- The inside of a JSON string. -/
  | json
  /-- Markdown text. -/
  | markdown
  /-- A terminal or a log. -/
  | plain
  deriving DecidableEq, Repr

namespace Surface

/-- The names of surfaces on a command line, in small letters. -/
def commandNames : List (String × Surface) :=
  [ ("html", html), ("js", javaScript), ("javascript", javaScript), ("json", json),
    ("md", markdown), ("markdown", markdown), ("plain", plain), ("text", plain) ]

/-- The names of surfaces in data. -/
def dataNames : List (String × Surface) :=
  [ ("html", html), ("javascript", javaScript), ("js", javaScript), ("json", json),
    ("markdown", markdown), ("plain", plain) ]

/-- A name in small letters. -/
def lowered (name : String) : String :=
  String.ofList (name.toList.map Char.toLower)

/-- The surface of a name in any case. -/
def ofName? (name : String) : Option Surface :=
  commandNames.lookup (lowered name)

/-- The message about a name that no surface has. -/
def unknownMessage (name : String) : String :=
  "unknown output context: " ++ lowered name

end Surface

namespace Escape

/-- A character of plain text: control characters become visible. -/
def plainChar (c : Char) : List Char :=
  match c with
  | '\n' => ['\\', 'n']
  | '\r' => ['\\', 'r']
  | '\t' => ['\\', 't']
  | c => if isUnsafe c then ['\\', 'u', '\x7b'] ++ hex .lower 4 c.toNat ++ ['\x7d'] else [c]

/-- A character of HTML text or of an attribute value. -/
def htmlChar (c : Char) : List Char :=
  match c with
  | '&' => "&amp;".toList
  | '<' => "&lt;".toList
  | '>' => "&gt;".toList
  | '"' => "&quot;".toList
  | '\'' => "&#x27;".toList
  | '/' => "&#x2F;".toList
  | c => if isUnsafe c then ['&', '#', 'x'] ++ hex .upper 1 c.toNat ++ [';'] else [c]

/-- A character by its code in a JavaScript string. -/
def scriptCode (c : Char) : List Char :=
  ['\\', 'u'] ++ hex .upper 4 c.toNat

/-- A character of a JavaScript string, harmless in a script element too. -/
def scriptChar (c : Char) : List Char :=
  match c with
  | '\\' => ['\\', '\\']
  | '\'' => ['\\', '\'']
  | '"' => ['\\', '"']
  | '\x60' => ['\\', '\x60']
  | '\n' => ['\\', 'n']
  | '\r' => ['\\', 'r']
  | '\t' => ['\\', 't']
  | '/' => ['\\', '/']
  | '<' => scriptCode c
  | '>' => scriptCode c
  | '&' => scriptCode c
  | '\u2028' => scriptCode c
  | '\u2029' => scriptCode c
  | c => if isUnsafe c then scriptCode c else [c]

/-- A character of a JSON string, harmless in a script element too. -/
def jsonChar (c : Char) : List Char :=
  match c with
  | '<' => "\\u003c".toList
  | '>' => "\\u003e".toList
  | '&' => "\\u0026".toList
  | c => Json.escapeChar c

/-- The marks of markdown text. -/
def isMarkdownMark (c : Char) : Bool :=
  ['\\', '\x60', '*', '_', '\x7b', '\x7d', '[', ']', '(', ')', '#', '+', '!', '|', '~'].contains c

/-- A visible character of markdown text. -/
def markdownVisible (c : Char) : List Char :=
  match c with
  | '&' => "&amp;".toList
  | '<' => "&lt;".toList
  | '>' => "&gt;".toList
  | c => if isMarkdownMark c then ['\\', c] else [c]

/-- A character of markdown text. -/
def markdownChar (c : Char) : List Char :=
  (plainChar c).flatMap markdownVisible

end Escape

/-- A character as a surface shows it. -/
def Surface.escapeChar : Surface → Char → List Char
  | .html => Escape.htmlChar
  | .javaScript => Escape.scriptChar
  | .json => Escape.jsonChar
  | .markdown => Escape.markdownChar
  | .plain => Escape.plainChar

/-- A text as a surface shows it. -/
def Surface.escape (s : Surface) (text : String) : String :=
  String.ofList (text.toList.flatMap s.escapeChar)

end TraceCheck
