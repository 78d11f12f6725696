import TraceCheck.Text.Hex

/-!
# New identifiers

Identifiers of rules that have none of their own are 128-bit numbers in hexadecimal,
in groups of 8, 4, 4, 4 and 12 digits. Six of the bits say that the others have no
meaning; the others are counted up from the start of the supply.
-/

namespace TraceCheck

/-- A supply of identifiers. -/
structure IdSupply where
  /-- The number of the next identifier. -/
  next : Nat := 0
  deriving DecidableEq, Repr

namespace IdSupply

/-- The identifier of a number, of which the lowest 122 bits count. -/
def idOfNumber (n : Nat) : String :=
  let group (width value : Nat) := String.ofList (Text.hexFixed .lower width value)
  "-".intercalate
    [ group 8 (n >>> 90), group 4 (n >>> 74), group 4 (0x4000 + (n >>> 62) % 0x1000),
      group 4 (0x8000 + (n >>> 48) % 0x4000), group 12 n ]

/-- A new identifier. -/
def take (s : IdSupply) : String × IdSupply :=
  (idOfNumber s.next, ⟨s.next + 1⟩)

/-- The identifier that is given, or else a new one. -/
def resolve (s : IdSupply) : Option String → String × IdSupply
  | some id => (id, s)
  | none => s.take

end IdSupply

end TraceCheck
