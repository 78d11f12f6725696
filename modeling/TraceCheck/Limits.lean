/-!
# Limits

Bounds on the size of rules, traces and messages, and on the time in which a rule is
read. The time is looked at again and again while a rule is read. A clock says how much of
it has passed at each of these looks; it may be any function, for nothing is known of the
time that a step takes.
-/

namespace TraceCheck

/-- Bounds on rules, traces and messages. -/
structure Limits where
  /-- Bytes of the text of a rule. -/
  maxTotalLength : Nat := 65536
  /-- Characters of a word. -/
  maxIdentifierLength : Nat := 100
  /-- Characters of a string. -/
  maxStringLength : Nat := 10000
  /-- Levels of nesting. -/
  maxRecursionDepth : Nat := 100
  /-- The time in which a rule has to be read, in milliseconds. -/
  maxParseTimeMs : Nat := 100
  /-- Spans of a trace. -/
  maxSpansPerTrace : Nat := 100000
  /-- Attributes of a span. -/
  maxAttributesPerSpan : Nat := 10000
  /-- Characters of a message. -/
  maxMessageLength : Nat := 10000
  deriving DecidableEq, Repr

/-- Whether the time is used up before reading starts. -/
def Limits.expired (l : Limits) : Bool :=
  l.maxParseTimeMs == 0

/-! ## Time -/

/-- A look at the clock while a rule is read. No two looks of one reading are the same. -/
inductive Look where
  /-- In front of a lexeme, with the number of lexemes before it. -/
  | lexeme (before : Nat)
  /-- In front of the expression. -/
  | expression
  /-- In front of a term, with the number of tokens left. -/
  | term (left : Nat)
  /-- In front of a level of nesting, with the number of tokens left. -/
  | level (left : Nat)
  /-- In front of a check, with the number of tokens left. -/
  | check (left : Nat)
  deriving DecidableEq, Repr

/-- The milliseconds that have passed at each look. -/
def Clock : Type := Look → Nat

/-- The clock on which no time passes. It is meant where none is named. -/
def Clock.still : Clock := fun _ => 0

/-- Whether a look finds the time used up. -/
def Limits.isLate (l : Limits) (clock : Clock) (look : Look) : Bool :=
  decide (l.maxParseTimeMs ≤ clock look)

theorem Limits.isLate_still (l : Limits) (look : Look) : l.isLate .still look = l.expired := by
  rw [isLate, Clock.still, expired, Bool.eq_iff_iff, decide_eq_true_iff, beq_iff_eq,
    Nat.le_zero]

end TraceCheck
