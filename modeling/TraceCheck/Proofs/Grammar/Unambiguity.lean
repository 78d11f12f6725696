import TraceCheck.Proofs.Grammar.Chains

/-!
# Derivations are unique

The terminals of a rule determine its derivation, whether it fits or not.  Each
kind of tree is determined together with what follows it, given that what
follows does not continue it.  The one place where two kinds of trees begin
alike is a clause that begins with `not`.
-/

namespace TraceCheck.Grammar

open TraceCheck.Reading

variable {v w : List Terminal}

/-- Terminals do not begin with a terminal of a kind. -/
def Avoids (k : TokenKind) (w : List Terminal) : Prop :=
  ∀ a ∈ w.head?, a.kind ≠ k

/-! ## Words, names and values -/

theorem Word.terminal_injective {a b : Word} (h : a.terminal = b.terminal) : a = b := by
  obtain ⟨s, hs⟩ := a
  obtain ⟨t, ht⟩ := b
  obtain rfl : s = t := h
  rfl

theorem dottedTerminals_append_injective
    {xs ys : List Word} (hv : Avoids .dot v) (hw : Avoids .dot w)
    (h : dottedTerminals xs ++ v = dottedTerminals ys ++ w) :
    xs = ys ∧ v = w := by
  induction xs generalizing ys with
  | nil =>
      cases ys with
      | nil => exact ⟨rfl, h⟩
      | cons y ys =>
          have hdot := hv (.fixed .dot) (by rw [show v = _ from h]; rfl)
          exact absurd rfl hdot
  | cons x xs ih =>
      cases ys with
      | nil =>
          have hdot := hw (.fixed .dot) (by rw [show w = _ from h.symm]; rfl)
          exact absurd rfl hdot
      | cons y ys =>
          rw [dottedTerminals_cons, dottedTerminals_cons] at h
          injection h with _ h
          injection h with hword h
          obtain ⟨rfl, rfl⟩ := ih h
          rw [Word.terminal_injective hword]
          exact ⟨rfl, rfl⟩

theorem Name.terminals_append_injective
    {m n : Name} (hv : Avoids .dot v) (hw : Avoids .dot w)
    (h : m.terminals ++ v = n.terminals ++ w) :
    m = n ∧ v = w := by
  obtain ⟨x, xs⟩ := m
  obtain ⟨y, ys⟩ := n
  injection h with hfirst h
  obtain ⟨hothers, hrest⟩ := dottedTerminals_append_injective hv hw h
  exact ⟨Name.mk.injEq .. ▸ ⟨Word.terminal_injective hfirst, hothers⟩, hrest⟩

theorem avoids_rParen (k : TokenKind) (hk : k ≠ .rParen) :
    Avoids k (.fixed .rParen :: w) := by
  intro a ha
  obtain rfl : Terminal.fixed .rParen = a := Option.some.inj ha
  exact hk.symm

theorem Scalar.terminal_injective {s t : Scalar} (h : s.terminal = t.terminal) : s = t := by
  cases s with
  | string content =>
      cases t with
      | string content' => injection h with _ h; rw [h]
      | number spelling => cases h
      | bool b => cases b <;> cases h
  | number spelling =>
      cases t with
      | string content => cases h
      | number spelling' => injection h with _ h; rw [h]
      | bool b => cases b <;> cases h
  | bool b =>
      cases t with
      | string content => cases b <;> cases h
      | number spelling => cases b <;> cases h
      | bool b' => cases b <;> cases b' <;> first | rfl | cases h

theorem itemTerminals_append_injective
    {xs ys : List Scalar} (h : itemTerminals xs ++ v = itemTerminals ys ++ w) :
    xs = ys ∧ v = w := by
  have hclose (s : Scalar) : s.terminal ≠ .fixed .rBracket := fun heq =>
    (scalar_kind_ne_bracket s).2 (by rw [heq]; rfl)
  induction xs generalizing ys with
  | nil =>
      cases ys with
      | nil => exact ⟨rfl, List.append_cancel_left h⟩
      | cons y ys =>
          refine absurd ?_ (hclose y)
          cases ys with
          | nil => injection h with h _; exact h.symm
          | cons y' ys => injection h with h _; exact h.symm
  | cons x xs ih =>
      cases ys with
      | nil =>
          refine absurd ?_ (hclose x)
          cases xs with
          | nil => injection h
          | cons x' xs => injection h
      | cons y ys =>
          cases xs with
          | nil =>
              cases ys with
              | nil =>
                  injection h with hfirst h
                  injection h with _ h
                  exact ⟨by rw [Scalar.terminal_injective hfirst], h⟩
              | cons y' ys =>
                  injection h with _ h
                  injection h with h _
                  cases h
          | cons x' xs =>
              cases ys with
              | nil =>
                  injection h with _ h
                  injection h with h _
                  cases h
              | cons y' ys =>
                  injection h with hfirst h
                  injection h with _ h
                  have htail : itemTerminals (x' :: xs) ++ v = itemTerminals (y' :: ys) ++ w := h
                  obtain ⟨hothers, hrest⟩ := ih htail
                  exact ⟨by rw [Scalar.terminal_injective hfirst, hothers], hrest⟩

theorem Value.terminals_append_injective
    {x y : Value} (h : x.terminals ++ v = y.terminals ++ w) :
    x = y ∧ v = w := by
  cases x with
  | scalar s =>
      cases y with
      | scalar t =>
          injection h with hfirst h
          exact ⟨by rw [Scalar.terminal_injective hfirst], h⟩
      | list ys =>
          injection h with hfirst _
          exact absurd (congrArg Terminal.kind hfirst) (scalar_kind_ne_bracket s).1
  | list xs =>
      cases y with
      | scalar t =>
          injection h with hfirst _
          exact absurd (congrArg Terminal.kind hfirst.symm) (scalar_kind_ne_bracket t).1
      | list ys =>
          injection h with _ h
          obtain ⟨hitems, hrest⟩ := itemTerminals_append_injective h
          exact ⟨by rw [hitems], hrest⟩

theorem comparator_terminal_injective {a b : Comparator} (h : a.terminal = b.terminal) :
    a = b := by
  revert h
  cases a <;> cases b <;> decide

/-! ## Clauses -/

/-- A test is determined with the parenthesis behind it. -/
theorem Test.terminals_append_injective
    {s t : Test}
    (h : s.terminals ++ .fixed .rParen :: v = t.terminals ++ .fixed .rParen :: w) :
    s = t ∧ v = w := by
  have hclose (op : Comparator) : op.terminal ≠ .fixed .rParen := fun heq =>
    comparator_kind_ne_paren op (by rw [heq]; rfl)
  cases s with
  | truthy =>
      cases t with
      | truthy =>
          injection h with _ h
          exact ⟨rfl, h⟩
      | compare op y =>
          injection h with h _
          exact absurd h.symm (hclose op)
  | compare op x =>
      cases t with
      | truthy =>
          injection h with h _
          exact absurd h (hclose op)
      | compare op' y =>
          injection h with hop h
          obtain ⟨hvalue, hrest⟩ := Value.terminals_append_injective h
          injection hrest with _ hrest
          exact ⟨by rw [comparator_terminal_injective hop, hvalue], hrest⟩

theorem avoids_test {t : Test} : Avoids .dot (t.terminals ++ .fixed .rParen :: w) := by
  cases t with
  | truthy => exact avoids_rParen .dot (by decide)
  | compare op x =>
      intro a ha
      obtain rfl : op.terminal = a := Option.some.inj ha
      cases op <;> decide

theorem name_test_injective
    {m n : Name} {s t : Test}
    (h : m.terminals ++ (s.terminals ++ .fixed .rParen :: v) =
      n.terminals ++ (t.terminals ++ .fixed .rParen :: w)) :
    m = n ∧ s = t ∧ v = w := by
  obtain ⟨hname, h⟩ := Name.terminals_append_injective avoids_test avoids_test h
  obtain ⟨htest, hrest⟩ := Test.terminals_append_injective h
  exact ⟨hname, htest, hrest⟩

/-- What stands behind the first word of a clause begins no value. -/
theorem not_value_of_tail
    {xs : List Word} {t : Test} {a : Terminal}
    (h : dottedTerminals xs ++ (t.terminals ++ .fixed .rParen :: v) = a :: w) :
    isValueKind a.kind = false := by
  cases xs with
  | cons x xs =>
      injection h with h _
      rw [← h]
      rfl
  | nil =>
      cases t with
      | truthy =>
          injection h with h _
          rw [← h]
          rfl
      | compare op y =>
          injection h with h _
          rw [← h]
          cases op <;> rfl

/-- The name of a negated clause never follows the name `not`: it is no dot and
no parenthesis, and as a comparator it would have a value behind it. -/
theorem not_clause_tail
    {m : Name} {s t : Test} {xs : List Word} :
    m.terminals ++ (s.terminals ++ .fixed .rParen :: v) ≠
      dottedTerminals xs ++ (t.terminals ++ .fixed .rParen :: w) := by
  intro h
  obtain ⟨first, others⟩ := m
  have hword := first.isWord
  cases xs with
  | cons x xs =>
      injection h with h _
      rw [show first.terminal = .fixed .dot from h] at hword
      cases hword
  | nil =>
      cases t with
      | truthy =>
          injection h with h _
          rw [show first.terminal = .fixed .rParen from h] at hword
          cases hword
      | compare op y =>
          injection h with _ h
          obtain ⟨a, u, hcons, hvalue⟩ := value_terminals_cons y
          have hnot := not_value_of_tail (h.trans (by rw [hcons]; rfl))
          rw [hvalue] at hnot
          cases hnot

/-- A clause is determined with the parenthesis behind it. -/
theorem Clause.terminals_append_injective
    {c d : Clause}
    (h : c.terminals ++ .fixed .rParen :: v = d.terminals ++ .fixed .rParen :: w) :
    c = d ∧ v = w := by
  obtain ⟨b, m, s⟩ := c
  obtain ⟨b', n, t⟩ := d
  simp only [Clause.terminals, List.append_assoc] at h
  cases b with
  | false =>
      cases b' with
      | false =>
          obtain ⟨rfl, rfl, rfl⟩ := name_test_injective h
          exact ⟨rfl, rfl⟩
      | true =>
          obtain ⟨first, others⟩ := m
          injection h with _ h
          exact absurd h.symm not_clause_tail
  | true =>
      cases b' with
      | false =>
          obtain ⟨first, others⟩ := n
          injection h with _ h
          exact absurd h not_clause_tail
      | true =>
          injection h with _ h
          obtain ⟨rfl, rfl, rfl⟩ := name_test_injective h
          exact ⟨rfl, rfl⟩

theorem whereTerminals_flatMap_append_injective
    {cs ds : List Clause} (hv : Avoids .dot v) (hw : Avoids .dot w)
    (h : cs.flatMap Clause.whereTerminals ++ v = ds.flatMap Clause.whereTerminals ++ w) :
    cs = ds ∧ v = w := by
  induction cs generalizing ds with
  | nil =>
      cases ds with
      | nil => exact ⟨rfl, h⟩
      | cons d ds =>
          have hdot := hv (.fixed .dot) (by rw [show v = _ from h]; rfl)
          exact absurd rfl hdot
  | cons c cs ih =>
      cases ds with
      | nil =>
          have hdot := hw (.fixed .dot) (by rw [show w = _ from h.symm]; rfl)
          exact absurd rfl hdot
      | cons d ds =>
          simp only [List.flatMap_cons, Clause.whereTerminals, parenthesized, List.cons_append,
            List.append_assoc, List.cons.injEq, true_and, List.nil_append] at h
          obtain ⟨rfl, hrest⟩ := Clause.terminals_append_injective h
          obtain ⟨rfl, rfl⟩ := ih hrest
          exact ⟨rfl, rfl⟩

/-! ## Checks, terms and chains -/

theorem argument_append_injective
    {m n : Name} (h : parenthesized m.terminals ++ v = parenthesized n.terminals ++ w) :
    m = n ∧ v = w := by
  simp only [parenthesized, List.cons_append, List.append_assoc, List.cons.injEq, true_and,
    List.nil_append] at h
  have hdot {u : List Terminal} : Avoids .dot (.fixed .rParen :: u) :=
    avoids_rParen .dot (by decide)
  obtain ⟨hname, h⟩ := Name.terminals_append_injective hdot hdot h
  injection h with _ h
  exact ⟨hname, h⟩

theorem countTerminals_append_injective
    {m n : Name} (h : countTerminals m ++ v = countTerminals n ++ w) :
    m = n ∧ v = w := by
  injection h with _ h
  injection h with _ h
  injection h with _ h
  exact argument_append_injective h

theorem Operand.terminals_append_injective
    {a b : Operand} (h : a.terminals ++ v = b.terminals ++ w) :
    a = b ∧ v = w := by
  cases a with
  | number spelling =>
      cases b with
      | number spelling' =>
          injection h with hfirst h
          injection hfirst with _ htext
          exact ⟨by rw [htext], h⟩
      | count n =>
          injection h with h _
          cases h
  | count m =>
      cases b with
      | number spelling =>
          injection h with h _
          cases h
      | count n =>
          obtain ⟨rfl, rfl⟩ := countTerminals_append_injective h
          exact ⟨rfl, rfl⟩

theorem Check.terminals_append_injective
    {a b : Check} (hv : Avoids .dot v) (hw : Avoids .dot w)
    (h : a.terminals ++ v = b.terminals ++ w) :
    a = b ∧ v = w := by
  cases a with
  | has m cs =>
      cases b with
      | has n ds =>
          simp only [Check.terminals, List.cons_append, List.append_assoc, List.cons.injEq,
            true_and] at h
          obtain ⟨rfl, hrest⟩ := argument_append_injective h
          obtain ⟨rfl, rfl⟩ := whereTerminals_flatMap_append_injective hv hw hrest
          exact ⟨rfl, rfl⟩
      | count n op o =>
          injection h with _ h
          injection h with _ h
          injection h with h _
          cases h
  | count m op o =>
      cases b with
      | has n ds =>
          injection h with _ h
          injection h with _ h
          injection h with h _
          cases h
      | count n op' o' =>
          simp only [Check.terminals, List.append_assoc, List.cons_append] at h
          obtain ⟨rfl, hrest⟩ := countTerminals_append_injective h
          injection hrest with hop hrest
          obtain rfl := comparator_terminal_injective hop
          obtain ⟨rfl, rfl⟩ := Operand.terminals_append_injective hrest
          exact ⟨rfl, rfl⟩

theorem Check.terminals_ne_not {c : Check} :
    c.terminals ++ v ≠ .fixed .not :: w := by
  intro h
  cases c with
  | has m cs =>
      injection h with h _
      cases h
  | count m op o =>
      injection h with h _
      cases h

theorem Term.terminals_append_injective
    {s t : Term} (hv : Avoids .dot v) (hw : Avoids .dot w)
    (h : s.terminals ++ v = t.terminals ++ w) :
    s = t ∧ v = w := by
  induction s generalizing t with
  | check c =>
      cases t with
      | check d =>
          obtain ⟨rfl, rfl⟩ := Check.terminals_append_injective hv hw h
          exact ⟨rfl, rfl⟩
      | not t => exact absurd h Check.terminals_ne_not
  | not s ih =>
      cases t with
      | check d => exact absurd h.symm Check.terminals_ne_not
      | not t =>
          injection h with _ h
          obtain ⟨rfl, rfl⟩ := ih h
          exact ⟨rfl, rfl⟩

theorem avoids_links (links : List (LogicalOp × Term)) : Avoids .dot (linkTerminals links) := by
  cases links with
  | nil => nofun
  | cons link links =>
      intro a ha
      obtain rfl : link.1.terminal = a := Option.some.inj ha
      cases link.1 <;> decide

theorem linkTerminals_injective
    {xs ys : List (LogicalOp × Term)} (h : linkTerminals xs = linkTerminals ys) :
    xs = ys := by
  induction xs generalizing ys with
  | nil =>
      cases ys with
      | nil => rfl
      | cons y ys => cases h
  | cons x xs ih =>
      cases ys with
      | nil => cases h
      | cons y ys =>
          obtain ⟨op, s⟩ := x
          obtain ⟨op', t⟩ := y
          rw [linkTerminals_cons, linkTerminals_cons] at h
          injection h with hop h
          obtain ⟨rfl, hrest⟩ :=
            Term.terminals_append_injective (avoids_links xs) (avoids_links ys) h
          obtain rfl := ih hrest
          obtain rfl : op = op' := by
            revert hop
            cases op <;> cases op' <;> decide
          rfl

/-- The terminals of a rule determine its derivation. -/
theorem Chain.terminals_injective {c d : Chain} (h : c.terminals = d.terminals) : c = d := by
  obtain ⟨s, xs⟩ := c
  obtain ⟨t, ys⟩ := d
  obtain ⟨rfl, hrest⟩ := Term.terminals_append_injective (avoids_links xs) (avoids_links ys) h
  obtain rfl := linkTerminals_injective hrest
  rfl

end TraceCheck.Grammar
