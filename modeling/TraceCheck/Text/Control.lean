/-!
# Characters that must not reach a display

Control characters act on a terminal, and the bidirectional overrides and
isolates change the order in which a text is shown.
-/

namespace TraceCheck.Text

/-- The characters of the general category `Cc`. -/
def isControl (c : Char) : Bool :=
  c.toNat < 0x20 || (0x7F ≤ c.toNat && c.toNat ≤ 0x9F)

/-- The embedding, override and isolate controls of bidirectional text. -/
def isBidiControl (c : Char) : Bool :=
  (0x202A ≤ c.toNat && c.toNat ≤ 0x202E) || (0x2066 ≤ c.toNat && c.toNat ≤ 0x2069)

/-- Characters that no output shows as they are. -/
def isUnsafe (c : Char) : Bool :=
  isControl c || isBidiControl c

end TraceCheck.Text
