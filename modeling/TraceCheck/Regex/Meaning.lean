import TraceCheck.Regex.Bracket
import TraceCheck.Regex.Node

/-!
# The meaning of regular expressions

`Ast.node` gives a written expression its meaning: the flags that stand in it
act on what follows them up to the end of their group.
-/

namespace TraceCheck.Regex

/-- The condition of an assertion. -/
def Assertion.look (f : Flags) : Assertion → Look
  | .startLine =>
    if f.multiLine then (if f.carriageReturn then .startLineReturn else .startLine)
    else .startText
  | .endLine =>
    if f.multiLine then (if f.carriageReturn then .endLineReturn else .endLine) else .endText
  | .startText => .startText
  | .endText => .endText
  | .wordBoundary => .word f.unicode
  | .notWordBoundary => .notWord f.unicode
  | .wordStart => .wordStart f.unicode
  | .wordEnd => .wordEnd f.unicode
  | .wordStartHalf => .wordStartHalf f.unicode
  | .wordEndHalf => .wordEndHalf f.unicode

mutual

/-- The meaning of an expression, and the flags for what follows it. -/
def Ast.node (f : Flags) : Ast → Except SyntaxError (Node × Flags)
  | .empty => .ok (.empty, f)
  | .flags change => .ok (.empty, f.change change)
  | .character c => do return (.ofSet (f.fold (← f.literal c)), f)
  | .dot => do return (.ofSet (← f.dot), f)
  | .assertion a => .ok (.look (a.look f), f)
  | .perl kind negated => do return (.ofSet (← f.perl kind negated), f)
  | .property q negated => do return (.ofSet (← f.property q negated), f)
  | .bracket negated content => do return (.ofSet (← f.bracket negated content), f)
  | .repetition least most greedy body => do
    let (n, g) ← body.node f
    return (.repeated least most (greedy != g.swapGreed) n, g)
  | .group kind body => do
    match kind with
    | .capture =>
      let (n, _) ← body.node f
      return (.capture n, f)
    | .flags change =>
      let (n, _) ← body.node (f.change change)
      return (n, f)
  | .concat parts => do
    let (ns, g) ← nodes f parts
    return (.sequence ns, g)
  | .alternation branches => do
    let (ns, g) ← nodes f branches
    return (.choice ns, g)

/-- The meanings of expressions one after the other. -/
def nodes (f : Flags) : List Ast → Except SyntaxError (List Node × Flags)
  | [] => .ok ([], f)
  | a :: rest => do
    let (n, g) ← a.node f
    let (ns, h) ← nodes g rest
    return (n :: ns, h)

end

end TraceCheck.Regex
