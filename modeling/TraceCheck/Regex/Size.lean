import Std.Data.HashMap
import TraceCheck.Regex.Meaning
import TraceCheck.Regex.Parser
import TraceCheck.Regex.Program

/-!
# The size of compiled regular expressions

The memory that the byte automata for an expression take, one that reads forwards
and one that reads backwards. `Node.grow` adds the states of an expression one
after the other; it fails as soon as the limit is passed, so that it ends early
for huge repetitions. The states of a set of characters are shared as far as a
bounded store of earlier states remembers them. `compile` takes the text of an
expression to its program within the limit.
-/

namespace TraceCheck.Regex

open TraceCheck.Unicode

/-! ### Memory -/

/-- Bytes of an automaton at most. -/
def sizeLimit : Nat := 10485760

/-- Bytes of one state. -/
def stateSize : Nat := 32

/-- Bytes of one transition of a state for characters. -/
def transitionSize : Nat := 8

/-- Bytes of one alternative of a state that forks. -/
def alternativeSize : Nat := 4

/-- The number of the states so far and their bytes. -/
structure Memory where
  states : Nat
  bytes : Nat
  deriving DecidableEq, Repr

/-- Add some states that need some more bytes; none if they do not fit. -/
def Memory.add (count extra : Nat) (m : Memory) : Option Memory :=
  let bytes := m.bytes + count * stateSize + extra
  if sizeLimit < bytes then none else some ⟨m.states + count, bytes⟩

/-- Do a step several times. -/
def times (step : Memory → Option Memory) : (count : Nat) → Memory → Option Memory
  | 0, m => some m
  | count + 1, m =>
    match step m with
    | none => none
    | some m => times step count m

/-! ### Sets of characters -/

/-- A range of bytes. -/
structure Bytes where
  first : Nat
  last : Nat
  deriving DecidableEq, Repr

/-- The bytes of the UTF-8 form of a code point. -/
def utf8Bytes (n : Nat) : List Nat :=
  if n < 0x80 then [n]
  else if n < 0x800 then [0xC0 + n / 0x40, 0x80 + n % 0x40]
  else if n < 0x10000 then [0xE0 + n / 0x1000, 0x80 + n / 0x40 % 0x40, 0x80 + n % 0x40]
  else [0xF0 + n / 0x40000, 0x80 + n / 0x1000 % 0x40, 0x80 + n / 0x40 % 0x40, 0x80 + n % 0x40]

/-- The greatest code points with one, two and three bytes. -/
def lengthBounds : List Nat := [0x7F, 0x7FF, 0xFFFF]

/-- Where to split a range so that the parts become products of byte ranges: the
last member of the first part. -/
def splitPoint? (r : Range) : Option Nat :=
  let surrogates :=
    if r.first < 0xE000 ∧ 0xD7FF < r.last ∧ r.first ≤ 0xD7FF then some 0xD7FF
    else if 0xD800 ≤ r.first ∧ r.first ≤ 0xDFFF ∧ 0xDFFF < r.last then some 0xDFFF
    else none
  let byLength := lengthBounds.find? fun b => r.first ≤ b && b < r.last
  let byBits := if r.last < 0x80 then none else [1, 2, 3].findSome? fun i =>
    let block := 1 <<< (6 * i)
    if r.first / block = r.last / block then none
    else if r.first % block ≠ 0 then some (r.first / block * block + block - 1)
    else if r.last % block ≠ block - 1 then some (r.last / block * block - 1)
    else none
  surrogates.or (byLength.or byBits)

/-- The UTF-8 forms of a range as products of byte ranges. -/
def byteSequences : (fuel : Nat) → Range → List (List Bytes)
  | 0, _ => []
  | fuel + 1, r =>
    match splitPoint? r with
    | some n => byteSequences fuel ⟨r.first, n⟩ ++ byteSequences fuel ⟨n + 1, r.last⟩
    | none =>
      if 0xD800 ≤ r.first ∧ r.last ≤ 0xDFFF then []
      else [List.zipWith Bytes.mk (utf8Bytes r.first) (utf8Bytes r.last)]

/-- The UTF-8 forms of a set. -/
def utf8Sequences (s : CodePoints) : List (List Bytes) :=
  s.ranges.flatMap (byteSequences 64)

/-- Sequences in groups by their first ranges. -/
def groupByFirst : List (List Bytes) → List (Bytes × List (List Bytes))
  | [] => []
  | [] :: rest => groupByFirst rest
  | (b :: bs) :: rest =>
    match groupByFirst rest with
    | (b', group) :: more =>
      if b = b' then (b, bs :: group) :: more else (b, [bs]) :: (b', group) :: more
    | [] => [(b, [bs])]

/-- States that are being added for one set, and the store of those among them
that can be shared: for each slot the content of a state and its number. -/
structure Sharing where
  memory : Memory
  store : Std.HashMap Nat (List Nat × Nat)

/-- Adding states for one set. -/
abbrev Shared := StateT Sharing Option

/-- The slot of a content in a store, by a multiplicative hash of 64 bits. -/
def slotOf (capacity : Nat) (content : List Nat) : Nat :=
  let h : UInt64 := content.foldl (fun h n => (h ^^^ n.toUInt64) * 1099511628211)
    14695981039346656037
  h.toNat % capacity

/-- The number of a state with some content: the one in the slot, or a new state,
which takes the slot. -/
def stateOf (capacity : Nat) (content : List Nat) (extra : Nat) : Shared Nat := do
  let s ← get
  let slot := slotOf capacity content
  let new : Shared Nat := do
    let m ← (s.memory.add 1 extra : Option Memory)
    set (Sharing.mk m (s.store.insert slot (content, s.memory.states)))
    return s.memory.states
  match s.store[slot]? with
  | some (known, number) => if known = content then return number else new
  | none => new

/-- The slots of the store when reading forwards. -/
def forwardCapacity : Nat := 10000

/-- The slots of the store when reading backwards. -/
def backwardCapacity : Nat := 1000

/-- The state that reads some sequences and goes to a state after each of them.
Its content are its transitions. -/
def forwardState (target : Nat) : (fuel : Nat) → List (List Bytes) → Shared Nat
  | 0, _ => return target
  | fuel + 1, seqs => do
    if seqs.all List.isEmpty then return target
    let transitions ← (groupByFirst seqs).mapM fun (b, rests) => do
      return [b.first, b.last, ← forwardState target fuel rests]
    stateOf forwardCapacity transitions.flatten (transitionSize * transitions.length)

/-- The state that reads a sequence from its end and goes to a state after it.
The content of a state are its range and where it goes. -/
def backwardState (target : Nat) : List Bytes → Shared Nat
  | [] => return target
  | b :: rest => do
    backwardState (← stateOf backwardCapacity [target, b.first, b.last] 0) rest

/-- The states that read sequences from their ends. -/
def backwardStates (target : Nat) : List (List Bytes) → Shared Unit
  | [] => return
  | seq :: rest => do
    let _ ← backwardState target seq
    backwardStates target rest

/-- Add the states of a set of characters. Backwards, a fork leads to the ends of
all sequences. -/
def growSet (backward : Bool) (s : CodePoints) (m : Memory) : Option Memory :=
  if s.ranges.all (·.last < 0x80) then m.add 2 (transitionSize * s.ranges.length)
  else
    let seqs := utf8Sequences s
    if backward then do
      let m' ← m.add 2 (alternativeSize * seqs.length)
      let (_, after) ← (backwardStates (m.states + 1) seqs).run ⟨m', ∅⟩
      return after.memory
    else do
      let m' ← m.add 1 0
      let (_, after) ← (forwardState m.states 5 seqs).run ⟨m', ∅⟩
      return after.memory

/-! ### Choices between literals -/

/-- The bytes of a literal in the order in which they are read. -/
def literalBytes (backward : Bool) (text : List Char) : List Nat :=
  let bytes := text.flatMap fun c => utf8Bytes c.toNat
  if backward then bytes.reverse else bytes

/-- The bytes of expressions that are literals. -/
def literals? (backward : Bool) : List Node → Option (List (List Nat))
  | [] => some []
  | .literal text :: rest =>
    (literals? backward rest).map (literalBytes backward text :: ·)
  | _ => none

/-- Literals in the groups that the ends of literals separate. In front of the
first byte only one end counts. -/
def untilEnds (literals : List (List Nat)) : List (List (List Nat)) :=
  match literals with
  | [] :: rest => [] :: (rest.dropWhile List.isEmpty).splitOnP List.isEmpty
  | _ => literals.splitOnP List.isEmpty

/-- What follows a first byte in some literals. -/
def afterByte (b : Nat) (literals : List (List Nat)) : List (List Nat) :=
  literals.filterMap fun
    | c :: rest => if c = b then some rest else none
    | [] => none

/-- The states of the tree of some literals and their further bytes: a fork, and
for each group a state with one transition for each first byte. -/
def treeSize : (fuel : Nat) → List (List Nat) → Nat × Nat
  | 0, _ => (0, 0)
  | fuel + 1, literals =>
    let groups := untilEnds literals
    let full := groups.filter (!·.isEmpty)
    let own := (1 + full.length, alternativeSize * (full.length + groups.length - 1))
    full.foldl (fun total group =>
      let firsts := (group.filterMap List.head?).eraseDups
      let more := if firsts.length < 2 then 0 else transitionSize * firsts.length
      firsts.foldl (fun (states, extra) b =>
        let rests := afterByte b group
        if rests.all List.isEmpty then (states, extra)
        else
          let (states', extra') := treeSize fuel rests
          (states + states', extra + extra')) (total.1, total.2 + more)) own

/-- Add the states of a choice between literals. -/
def growLiterals (literals : List (List Nat)) (m : Memory) : Option Memory :=
  let (states, extra) := treeSize (literals.foldl (fun n l => max n l.length) 0 + 1) literals
  m.add (1 + states) extra

/-! ### Expressions -/

/-- Bytes of the two alternatives of a fork. -/
def forkSize : Nat := 2 * alternativeSize

mutual

/-- Add the states of an expression. -/
def Node.grow (backward : Bool) : Node → Memory → Option Memory
  | .empty, m => m.add 1 0
  | .literal text, m => m.add (literalBytes backward text).length 0
  | .set s, m => growSet backward s m
  | .look _, m => m.add 1 0
  | .capture body, m =>
    if backward then body.grow backward m
    else do (← body.grow backward (← m.add 1 0)).add 1 0
  | .concat parts, m => growAll backward parts m
  | .alternation branches, m =>
    match literals? backward branches with
    | some literals => growLiterals literals m
    | none => do growBranches backward branches 0 (← m.add 0 (alternativeSize * branches.length))
  | .repetition least most _ body, m =>
    let one := body.grow backward
    match most with
    | none =>
      if least = 0 then
        if body.consumes? = some true then do one (← m.add 1 forkSize)
        else do (← one m).add 3 (2 * forkSize)
      else do (← times one least m).add 1 forkSize
    | some most =>
      if most = least then times one least m
      else if least = 0 ∧ most = 1 then do (← one (← m.add 1 forkSize)).add 1 0
      else do
        let m ← if least = 0 then m.add 1 0 else times one least m
        times (fun m => do one (← m.add 1 forkSize)) (most - least) (← m.add 1 0)

/-- Add the states of expressions in the order in which they are read. -/
def growAll (backward : Bool) : List Node → Memory → Option Memory
  | [], m => some m
  | n :: rest, m =>
    if backward then do n.grow backward (← growAll backward rest m)
    else do growAll backward rest (← n.grow backward m)

/-- Add the states of alternatives. `count` stand in front of them; the fork to
all of them and the place where they meet come behind the second. -/
def growBranches (backward : Bool) : List Node → (count : Nat) → Memory → Option Memory
  | [], _, m => some m
  | n :: rest, count, m => do
    let m ← n.grow backward m
    growBranches backward rest (count + 1) (← m.add (if count = 1 then 2 else 0) 0)

end

/-- The memory of the automaton for an expression. In front of it stand the states
that pass any bytes, unless each match is anchored; forwards, two states mark the
ends of the match; the last state accepts. -/
def Node.memory? (backward : Bool) (n : Node) : Option Memory := do
  let start ←
    if n.isAnchored backward then Memory.add 1 0 ⟨0, 0⟩
    else Memory.add 3 (forkSize + transitionSize) ⟨0, 0⟩
  (← (Node.capture n).grow backward start).add 1 0

/-- Whether an expression is too large in either direction. -/
def Node.isTooLarge (n : Node) : Bool :=
  (n.memory? false).isNone || (n.memory? true).isNone

/-- The program of the text of an expression, if its automata stay small. -/
def compile (text : List Char) : Except SyntaxError Program := do
  let ast ← parse text
  let (node, _) ← ast.node {}
  if node.isTooLarge then throw (.tooLarge sizeLimit)
  return node.program

end TraceCheck.Regex
