import TraceCheck.Regex.Node
import TraceCheck.Unicode.Word

/-!
# Matching regular expressions

An expression becomes a program whose jumps are relative, so that the code of an
expression is the same wherever it stands. `Program.matches` runs all threads of
a program side by side over the text; each instruction is entered at most once
at a place, so the time is bounded by the sizes of program and text.
-/

namespace TraceCheck.Regex

open TraceCheck.Unicode

/-- An instruction. Targets are relative to the instruction itself. -/
inductive Inst where
  /-- Pass a character of the set. -/
  | set (s : CodePoints)
  /-- Go on at both targets. -/
  | fork (first second : Int)
  /-- Go on at the target. -/
  | jump (target : Int)
  /-- Go on if the place satisfies the condition. -/
  | look (l : Look)
  /-- The expression matches. -/
  | accept

instance : Inhabited Inst := ⟨.accept⟩

/-- Code that is repeated any number of times. -/
def starCode (body : List Inst) : List Inst :=
  .fork 1 (body.length + 2) :: body ++ [.jump (-(body.length + 1 : Int))]

/-- Code that is run at most `count` times; in front of each run stands a fork to
the end. -/
def optionalCode (body : List Inst) (count : Nat) : List Inst :=
  (List.range count).flatMap fun i =>
    .fork 1 (Int.ofNat ((count - i) * (body.length + 1))) :: body

/-- Code for alternatives. -/
def choiceCode : List (List Inst) → List Inst
  | [] => [.set .empty]
  | [code] => code
  | code :: rest =>
    let others := choiceCode rest
    .fork 1 (code.length + 2) :: code ++ .jump (others.length + 1) :: others

mutual

/-- The code of an expression; what follows it is run next. -/
def Node.code : Node → List Inst
  | .empty => []
  | .literal text => text.map fun c => .set (.single c.toNat)
  | .set s => [.set s]
  | .look l => [.look l]
  | .capture body => body.code
  | .concat parts => (codes parts).flatten
  | .alternation branches => choiceCode (codes branches)
  | .repetition least most _ body =>
    let one := body.code
    let required := (List.replicate least one).flatten
    match most with
    | none => required ++ starCode one
    | some most => required ++ optionalCode one (most - least)

/-- The code of each expression. -/
def codes : List Node → List (List Inst)
  | [] => []
  | n :: rest => n.code :: codes rest

end

/-- A compiled expression. -/
structure Program where
  code : Array Inst

/-- The program of an expression. -/
def Node.program (n : Node) : Program :=
  ⟨(n.code ++ [Inst.accept]).toArray⟩

/-- Whether a character is part of a word. -/
def inWord (unicode : Bool) (c : Option Char) : Bool :=
  c.any fun c => if unicode then isWord c else c.isAlphanum || c == '_'

/-- Whether a condition holds between two characters. -/
def Look.holds (before after : Option Char) : Look → Bool
  | .startText => before.isNone
  | .endText => after.isNone
  | .startLine => before.all (· == '\n')
  | .endLine => after.all (· == '\n')
  | .startLineReturn =>
    before.all fun c => c == '\n' || (c == '\r' && after != some '\n')
  | .endLineReturn =>
    after.all fun c => c == '\r' || (c == '\n' && before != some '\r')
  | .word u => inWord u before != inWord u after
  | .notWord u => inWord u before == inWord u after
  | .wordStart u => !inWord u before && inWord u after
  | .wordEnd u => inWord u before && !inWord u after
  | .wordStartHalf u => !inWord u before
  | .wordEndHalf u => !inWord u after

/-- The threads at a place: those that wait for a character, and for every
instruction the last place at which it was entered. -/
structure Threads where
  waiting : List Nat
  entered : Array Nat
  accepted : Bool

/-- Enter instructions and follow them up to those that wait for a character.
`stamp` is the number of the place, not zero. -/
def follow (code : Array Inst) (before after : Option Char) (stamp : Nat) :
    (fuel : Nat) → (work : List Int) → Threads → Threads
  | 0, _, t => t
  | _, [], t => t
  | fuel + 1, pc :: work, t =>
    let i := pc.toNat
    if t.entered.getD i stamp = stamp then follow code before after stamp fuel work t
    else
      let t := { t with entered := t.entered.setIfInBounds i stamp }
      match code[i]? with
      | some (.set _) =>
        follow code before after stamp fuel work { t with waiting := i :: t.waiting }
      | some (.fork a b) => follow code before after stamp fuel ((pc + a) :: (pc + b) :: work) t
      | some (.jump a) => follow code before after stamp fuel ((pc + a) :: work) t
      | some (.look l) =>
        if l.holds before after then follow code before after stamp fuel ((pc + 1) :: work) t
        else follow code before after stamp fuel work t
      | some .accept => { t with accepted := true }
      | none => follow code before after stamp fuel work t

/-- Whether a thread that waits at an instruction passes a character. -/
def passes (code : Array Inst) (c : Char) (i : Nat) : Bool :=
  match code[i]? with
  | some (.set s) => s.contains c
  | _ => false

/-- Run the threads over the rest of a text; a new thread starts at each place. -/
def run (code : Array Inst) : (text : List Char) → (before : Option Char) → (stamp : Nat) →
    (starts : List Int) → (entered : Array Nat) → Bool
  | text, before, stamp, starts, entered =>
    let t := follow code before text.head? stamp (3 * code.size + starts.length + 2)
      (starts ++ [0]) ⟨[], entered, false⟩
    if t.accepted then true
    else
      match text with
      | [] => false
      | c :: rest =>
        run code rest (some c) (stamp + 1)
          ((t.waiting.filter (passes code c)).map fun i : Nat => Int.ofNat i + 1) t.entered

/-- Whether a program matches somewhere in a text. -/
def Program.matches (p : Program) (text : List Char) : Bool :=
  run p.code text none 1 [] (Array.replicate p.code.size 0)

end TraceCheck.Regex
