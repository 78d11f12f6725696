import TraceCheck.Regex.Property
import TraceCheck.Unicode.CaseFold

/-!
# Sets of characters under flags

The set that a character, an escape or a bracket means depends on the flags in
force. Case folding applies to each set before it is negated. Where Unicode is
off a set consists of bytes, and every part of it must stay below 128: the other
bytes are no text of their own.
-/

namespace TraceCheck.Regex

open TraceCheck.Unicode

/-- The flags that matter for the meaning. -/
structure Flags where
  caseInsensitive : Bool := false
  multiLine : Bool := false
  dotMatchesNewLine : Bool := false
  swapGreed : Bool := false
  unicode : Bool := true
  carriageReturn : Bool := false
  deriving DecidableEq, Repr

/-- The flags after a change. -/
def Flags.change (f : Flags) (c : FlagChange) : Flags :=
  { caseInsensitive := (c.state? .caseInsensitive).getD f.caseInsensitive
    multiLine := (c.state? .multiLine).getD f.multiLine
    dotMatchesNewLine := (c.state? .dotMatchesNewLine).getD f.dotMatchesNewLine
    swapGreed := (c.state? .swapGreed).getD f.swapGreed
    unicode := (c.state? .unicode).getD f.unicode
    carriageReturn := (c.state? .carriageReturn).getD f.carriageReturn }

/-- The ASCII letters of the other case, for each letter of a set. -/
def closeAsciiCase (s : CodePoints) : CodePoints :=
  .ofRanges (s.ranges ++
    ((List.range 26).flatMap fun i =>
      (if s.mem (0x41 + i) then [⟨0x61 + i, 0x61 + i⟩] else []) ++
      (if s.mem (0x61 + i) then [⟨0x41 + i, 0x41 + i⟩] else [])))

/-- Close a set under case if the flags say so. -/
def Flags.fold (f : Flags) (s : CodePoints) : CodePoints :=
  if !f.caseInsensitive then s
  else if f.unicode then s.closeUnderCase
  else closeAsciiCase s

/-- All bytes; they stand for the ASCII characters and what is not text. -/
def allBytes : CodePoints := ⟨[⟨0, 255⟩]⟩

/-- A set or its negation, which where Unicode is off is taken among the bytes and
must not go beyond ASCII. -/
def Flags.negate (f : Flags) (negated : Bool) (s : CodePoints) :
    Except SyntaxError CodePoints :=
  if f.unicode then .ok (if negated then s.negation else s)
  else
    let s := if negated then allBytes.inter s.complement else s
    if s.ranges.any (127 < ·.last) then .error .invalidUtf8 else .ok s

/-- A character that stands for itself. A byte beyond ASCII is no text. -/
def Flags.literal (f : Flags) (c : Character) : Except SyntaxError CodePoints :=
  if !f.unicode && c.asByte && 127 < c.char.toNat then .error .invalidUtf8
  else .ok (.single c.char.toNat)

/-- An end of a range, or a character of a bracket. -/
def Flags.member (f : Flags) (c : Character) : Except SyntaxError Nat :=
  if f.unicode || c.char.toNat < 128 then .ok c.char.toNat
  else if c.asByte then .error .invalidUtf8
  else .error .unicodeNotAllowed

/-- The set of a class with a one-letter escape. -/
def Flags.perl (f : Flags) (kind : PerlClass) (negated : Bool) :
    Except SyntaxError CodePoints :=
  f.negate negated (if f.unicode then kind.set else kind.asciiSet)

/-- The set of a property. -/
def Flags.property (f : Flags) (q : PropertyQuery) (negated : Bool) :
    Except SyntaxError CodePoints := do
  if !f.unicode then throw .unicodeNotAllowed
  f.negate (negated != q.isNegated) (f.fold (← q.set))

mutual

/-- The set of an item of a bracket. -/
def SetItem.points (f : Flags) : SetItem → Except SyntaxError CodePoints
  | .character c => do return .single (← f.member c)
  | .range a b => do return ⟨[⟨← f.member a, ← f.member b⟩]⟩
  | .ascii name negated => f.negate negated (f.fold (asciiSet name))
  | .perl kind negated => f.perl kind negated
  | .property q negated => f.property q negated
  | .bracket negated content => do f.negate negated (f.fold (← content.points f))

/-- The set of the content of a bracket. -/
def SetContent.points (f : Flags) : SetContent → Except SyntaxError CodePoints
  | .items is => do return .ofRanges (← itemRanges f is)
  | .operation op l r => do
    let s := f.fold (← l.points f)
    let t := f.fold (← r.points f)
    return match op with
      | .intersection => s.inter t
      | .difference => s.diff t
      | .symmetricDifference => s.symmDiff t

/-- The ranges of some items. -/
def itemRanges (f : Flags) : List SetItem → Except SyntaxError (List Range)
  | [] => .ok []
  | i :: rest => do return (← i.points f).ranges ++ (← itemRanges f rest)

end

/-- The set of a bracket. -/
def Flags.bracket (f : Flags) (negated : Bool) (content : SetContent) :
    Except SyntaxError CodePoints := do
  f.negate negated (f.fold (← content.points f))

/-- Every character that a dot matches. -/
def Flags.dot (f : Flags) : Except SyntaxError CodePoints :=
  if !f.unicode then .error .invalidUtf8
  else if f.dotMatchesNewLine then .ok .all
  else if f.carriageReturn then .ok (CodePoints.mk [⟨10, 10⟩, ⟨13, 13⟩]).complement
  else .ok (CodePoints.single 10).complement

end TraceCheck.Regex
