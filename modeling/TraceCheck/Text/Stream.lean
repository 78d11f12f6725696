import TraceCheck.Text.Blank

/-!
# Streams

What can be read from a file or an input: bytes, up to their end or a failure. They are
read at once or line by line. Whoever reads line by line gets the lines in front of a
failure and in front of a line that is no text.
-/

namespace TraceCheck

/-- Bytes that can be read one after the other. -/
structure Stream where
  bytes : ByteArray
  /-- Why reading on behind the bytes fails, unless they are all there is. -/
  failure : Option String := none

namespace Stream

/-- The bytes of a text. -/
def ofText (s : String) : Stream :=
  { bytes := s.toUTF8 }

instance : Coe String Stream := ⟨ofText⟩

/-- Why bytes that are no text cannot be read. -/
def notText : String := "stream did not contain valid UTF-8"

/-- The text that bytes hold. -/
def decode (bytes : ByteArray) : Except String String :=
  match String.fromUTF8? bytes with
  | some text => .ok text
  | none => .error notText

/-- All bytes. -/
def all (s : Stream) : Except String ByteArray :=
  match s.failure with
  | none => .ok s.bytes
  | some reason => .error reason

/-- The text that all bytes hold. -/
def text (s : Stream) : Except String String :=
  s.all.bind decode

/-- The lines, each without its line feed and the carriage return before it. One that is no
text cannot be read, and neither can one in which reading fails. -/
def lines (s : Stream) : List (Except String (List Char)) :=
  go s.bytes.data.toList []
where
  /-- `line` holds the bytes of the current line, last one first. -/
  go : List UInt8 → List UInt8 → List (Except String (List Char))
    | [], line =>
      match s.failure, line with
      | some reason, _ => [.error reason]
      | none, [] => []
      | none, line => [lineText line]
    | b :: rest, line =>
      if b = 10 then
        (lineText line).map (fun cs => (Text.lines.dropReturn cs.reverse).reverse) :: go rest []
      else go rest (b :: line)
  /-- The characters of a line read backwards. -/
  lineText (line : List UInt8) : Except String (List Char) :=
    (decode line.reverse.toByteArray).map String.toList

end Stream

end TraceCheck
