import TraceCheck.Yaml.Document

/-!
# Encoded documents

A document comes as bytes in UTF-8. If some of them are no character there is no text, and
what is reported is the first character that cannot be read or that a text may not hold.
-/

namespace TraceCheck.Yaml

namespace Encoding

/-- The number of bytes of a character, told by the first one. -/
def width? (b : UInt8) : Option Nat :=
  if b < 0x80 then some 1
  else if b < 0xC0 then none
  else if b < 0xE0 then some 2
  else if b < 0xF0 then some 3
  else if b < 0xF8 then some 4
  else none

/-- Whether a byte continues a character. -/
def isTrailing (b : UInt8) : Bool :=
  0x80 ≤ b && b < 0xC0

/-- The part of the first byte of a character that is its mark is divisible by this; the
rest belongs to the number of the character. -/
def leadingUnit : (width : Nat) → Nat
  | 1 => 0x80
  | 2 => 0x20
  | 3 => 0x10
  | _ => 0x08

/-- The least number for which a character takes so many bytes. -/
def least : (width : Nat) → Nat
  | 2 => 0x80
  | 3 => 0x800
  | 4 => 0x10000
  | _ => 0

/-- The number of the character with these bytes. -/
def number (width : Nat) (first : UInt8) (trailing : List UInt8) : Nat :=
  trailing.foldl (fun n b => n * 64 + b.toNat % 64) (first.toNat % leadingUnit width)

/-- What is wrong with a character that has the right form. -/
def wrong? (width n : Nat) : Option String :=
  if n < least width then some "invalid length of a UTF-8 sequence"
  else if h : n.isValidChar then
    if isPrintable (Char.ofNatAux n h) then none else some unprintable
  else some "invalid Unicode character"

/-- The number of bytes of the character at the start of some bytes, or what is wrong with it
and the number of bytes in front of that. -/
def character (first : UInt8) (rest : List UInt8) : Except (String × Nat) Nat :=
  match width? first with
  | none => .error ("invalid leading UTF-8 octet", 0)
  | some width =>
    let trailing := rest.take (width - 1)
    if trailing.length < width - 1 then .error ("incomplete UTF-8 octet sequence", 0)
    else
      match trailing.findIdx? fun b => !isTrailing b with
      | some n => .error ("invalid trailing UTF-8 octet", n + 1)
      | none =>
        match wrong? width (number width first trailing) with
        | some problem => .error (problem, 0)
        | none => .ok width

/-- The error about the first character that is wrong, behind some bytes that are right. -/
def error? : (fuel before : Nat) → List UInt8 → Option SyntaxError
  | 0, _, _ => none
  | _, _, [] => none
  | fuel + 1, before, first :: rest =>
    match character first rest with
    | .error (problem, offset) => some (.atByte problem (before + offset))
    | .ok width => error? fuel (before + width) (rest.drop (width - 1))

end Encoding

/-- The document of a text that cannot be read. -/
def Document.unreadable (e : Option SyntaxError) : Document :=
  { items := #[], error := e.map .spelling, hasMore := false }

/-- The first document in some bytes. -/
def Document.ofBytes (bytes : ByteArray) : Document :=
  match String.fromUTF8? bytes with
  | some text => .ofText text
  | none => .unreadable (Encoding.error? bytes.size 0 bytes.data.toList)

end TraceCheck.Yaml
