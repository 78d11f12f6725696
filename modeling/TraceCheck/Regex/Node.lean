import TraceCheck.Unicode.CodePoints

/-!
# Simplified regular expressions

A `Node` is an expression whose flags are resolved: literal text, sets of
characters, conditions on places, sequences, alternatives and repetitions. Nodes
are built by `Node.ofSet`, `Node.sequence`, `Node.choice` and `Node.repeated`,
which simplify: literals that meet are joined, nested sequences and choices are
flattened, a choice between characters or sets becomes one set, and what all
alternatives begin with is written once in front of them.
-/

namespace TraceCheck.Regex

open TraceCheck.Unicode

/-- Conditions on the characters before and after a place. -/
inductive Look where
  | startText
  | endText
  | startLine
  | endLine
  | startLineReturn
  | endLineReturn
  | word (unicode : Bool)
  | notWord (unicode : Bool)
  | wordStart (unicode : Bool)
  | wordEnd (unicode : Bool)
  | wordStartHalf (unicode : Bool)
  | wordEndHalf (unicode : Bool)
  deriving DecidableEq, Repr

/-- A regular expression with its flags resolved. -/
inductive Node where
  | empty
  | literal (text : List Char)
  | set (s : CodePoints)
  | look (l : Look)
  | capture (body : Node)
  | concat (parts : List Node)
  | alternation (branches : List Node)
  | repetition (least : Nat) (most : Option Nat) (greedy : Bool) (body : Node)

instance : Inhabited Node := ⟨.empty⟩

/-! ### What every match has -/

mutual

/-- Whether an expression matches nothing but the empty text. -/
def Node.onlyEmpty : Node → Bool
  | .empty => true
  | .literal _ => false
  | .set _ => false
  | .look _ => true
  | .capture body => body.onlyEmpty
  | .concat parts => allOnlyEmpty parts
  | .alternation branches => allOnlyEmpty branches
  | .repetition _ _ _ body => body.onlyEmpty

/-- Whether expressions match nothing but the empty text. -/
def allOnlyEmpty : List Node → Bool
  | [] => true
  | n :: rest => n.onlyEmpty && allOnlyEmpty rest

end

mutual

/-- Whether every match has at least one character; none if a part of the
expression never matches. -/
def Node.consumes? : Node → Option Bool
  | .empty => some false
  | .literal _ => some true
  | .set s => if s.ranges.isEmpty then none else some true
  | .look _ => some false
  | .capture body => body.consumes?
  | .concat parts => (allConsume? parts).map (·.any id)
  | .alternation branches => (allConsume? branches).map (·.all id)
  | .repetition least _ _ body => body.consumes?.map (0 < least && ·)

/-- The same of several expressions. -/
def allConsume? : List Node → Option (List Bool)
  | [] => some []
  | n :: rest => do return (← n.consumes?) :: (← allConsume? rest)

end

mutual

/-- Whether every match begins at the start of the text or, read backwards, ends
at its end. -/
def Node.isAnchored (backward : Bool) : Node → Bool
  | .look l => l = if backward then .endText else .startText
  | .capture body => body.isAnchored backward
  | .concat parts => firstAnchored backward parts
  | .alternation branches => allAnchored backward branches
  | .repetition least _ _ body => 0 < least && body.isAnchored backward
  | _ => false

/-- Whether a sequence is anchored by a part that only empty ones precede. -/
def firstAnchored (backward : Bool) : List Node → Bool
  | [] => false
  | n :: rest =>
    if backward then
      firstAnchored backward rest || (allOnlyEmpty rest && n.isAnchored backward)
    else n.isAnchored backward || (n.onlyEmpty && firstAnchored backward rest)

/-- Whether all of several expressions are anchored. -/
def allAnchored (backward : Bool) : List Node → Bool
  | [] => true
  | n :: rest => n.isAnchored backward && allAnchored backward rest

end

mutual

/-- Whether two expressions are the same. Groups are told apart by their place,
so no two of them are. -/
def Node.same : Node → Node → Bool
  | .empty, .empty => true
  | .literal a, .literal b => a == b
  | .set s, .set t => s == t
  | .look l, .look m => l == m
  | .concat a, .concat b => allSame a b
  | .alternation a, .alternation b => allSame a b
  | .repetition least most greedy a, .repetition least' most' greedy' b =>
    least == least' && most == most' && greedy == greedy' && a.same b
  | _, _ => false

/-- Whether two lists hold the same expressions. -/
def allSame : List Node → List Node → Bool
  | [], [] => true
  | m :: ms, n :: ns => m.same n && allSame ms ns
  | _, _ => false

end

/-! ### Simplification -/

/-- A set as an expression. A set of one character is literal text. -/
def Node.ofSet (s : CodePoints) : Node :=
  match s.ranges with
  | [r] => if r.first = r.last then .literal [Char.ofNat r.first] else .set s
  | _ => .set s

/-- A repetition; of an expression that only matches the empty text there is at
most one. -/
def Node.repeated (least : Nat) (most : Option Nat) (greedy : Bool) (body : Node) : Node :=
  let (least, most) :=
    if body.onlyEmpty then (min least 1, some (min (most.getD 1) 1)) else (least, most)
  if least = 0 ∧ most = some 0 then .empty
  else if least = 1 ∧ most = some 1 then body
  else .repetition least most greedy body

/-- The expressions of which an expression is the sequence. -/
def Node.parts : Node → List Node
  | .empty => []
  | .concat parts => parts
  | n => [n]

/-- Join the literals that follow each other. -/
def joinLiterals : List Node → List Node
  | [] => []
  | n :: rest =>
    match n, joinLiterals rest with
    | .literal a, .literal b :: more => .literal (a ++ b) :: more
    | n, more => n :: more

/-- Expressions one after the other. -/
def Node.sequence (ns : List Node) : Node :=
  match joinLiterals (ns.flatMap Node.parts) with
  | [] => .empty
  | [n] => n
  | parts => .concat parts

/-- The expressions between which an expression chooses. -/
def Node.branches : Node → List Node
  | .alternation branches => branches
  | n => [n]

/-- The character that is all of an expression. -/
def Node.character? : Node → Option Char
  | .literal [c] => some c
  | _ => none

/-- The set that is all of an expression. -/
def Node.set? : Node → Option CodePoints
  | .set s => some s
  | _ => none

/-- A choice between expressions; characters and sets become one set. -/
def Node.anyOf (branches : List Node) : Node :=
  match branches with
  | [] => .set .empty
  | [n] => n
  | _ =>
    match branches.mapM Node.character? with
    | some cs => .ofSet (.ofRanges (cs.map fun c => ⟨c.toNat, c.toNat⟩))
    | none =>
      match branches.mapM Node.set? with
      | some ss => .ofSet (.ofRanges (ss.flatMap CodePoints.ranges))
      | none => .alternation branches

/-- The parts of a sequence of several. -/
def Node.concat? : Node → Option (List Node)
  | .concat parts => some parts
  | _ => none

/-- The expressions with which both of two sequences begin. -/
def sharedParts : List Node → List Node → List Node
  | m :: ms, n :: ns => if m.same n then m :: sharedParts ms ns else []
  | _, _ => []

/-- The expressions with which all sequences begin. -/
def commonParts : List (List Node) → List Node
  | [] => []
  | parts :: rest => rest.foldl sharedParts parts

/-- A choice between expressions; what all of them begin with stands in front. -/
def Node.choice (ns : List Node) : Node :=
  match Node.anyOf (ns.flatMap Node.branches) with
  | .alternation branches =>
    match branches.mapM Node.concat? with
    | some sequences =>
      match commonParts sequences with
      | [] => .alternation branches
      | common =>
        let rests := sequences.map fun parts => Node.sequence (parts.drop common.length)
        .sequence (common ++ [Node.anyOf (rests.flatMap Node.branches)])
    | none => .alternation branches
  | n => n

end TraceCheck.Regex
