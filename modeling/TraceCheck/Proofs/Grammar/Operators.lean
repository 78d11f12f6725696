import TraceCheck.Proofs.Grammar.Chains

/-!
# Operators and the levels they take

The operators of a rule are the words that join its terms and each `not` in front of a
check.  Each takes a level of nesting: a joining word takes it for all that follows it, a
`not` up to the end of its term.
-/

namespace TraceCheck.Grammar

open TraceCheck.Reading

/-- An operator of a rule: the number of terminals in front of it, and the number of levels
that are taken behind it. -/
structure Operator where
  place : Nat
  level : Nat
  deriving DecidableEq, Repr

/-- Each `not` in front of the check of a term that begins at a place, when some levels are
taken in front of it. -/
def Term.operators (place taken : Nat) : Term → List Operator
  | .check _ => []
  | .not t => ⟨place, taken + 1⟩ :: t.operators (place + 1) (taken + 1)

/-- The operators from a place on, where the first is one that joins terms. -/
def linkOperators (place taken : Nat) : List (LogicalOp × Term) → List Operator
  | [] => []
  | (_, t) :: links =>
    ⟨place, taken + 1⟩ :: (t.operators (place + 1) (taken + 1) ++
      linkOperators (place + 1 + t.terminals.length) (taken + 1) links)

/-- The operators of a rule from left to right. -/
def Chain.operators (c : Chain) : List Operator :=
  c.first.operators 0 0 ++ linkOperators c.first.terminals.length 0 c.others

/-! ## Places -/

/-- Whether terminals of a kind are operators. -/
def IsOperatorKind (k : TokenKind) : Prop :=
  k = .and ∨ k = .or ∨ k = .not

/-- Operators stand in order among terminals that begin at a place, and none of them is
the last terminal. -/
structure StandIn (place : Nat) (w : List Terminal) (ops : List Operator) : Prop where
  ascending : ops.Pairwise fun o o' => o.place < o'.place
  inside : ∀ o ∈ ops, ∃ i a, o.place = place + i ∧ i + 1 < w.length ∧ w[i]? = some a ∧
    IsOperatorKind a.kind

variable {place taken D : Nat} {t : Term} {links : List (LogicalOp × Term)}

theorem StandIn.none (place : Nat) (w : List Terminal) : StandIn place w [] :=
  ⟨.nil, List.forall_mem_nil _⟩

theorem StandIn.cons {a : Terminal} {w : List Terminal} {ops : List Operator} {level : Nat}
    (ha : IsOperatorKind a.kind) (hw : w ≠ []) (h : StandIn (place + 1) w ops) :
    StandIn place (a :: w) (⟨place, level⟩ :: ops) where
  ascending := by
    refine .cons (fun o ho => ?_) h.ascending
    obtain ⟨i, b, hplace, -⟩ := h.inside o ho
    change place < o.place
    omega
  inside := by
    refine List.forall_mem_cons.mpr ⟨⟨0, a, rfl, ?_, rfl, ha⟩, fun o ho => ?_⟩
    · have := List.length_pos_iff.mpr hw
      rw [List.length_cons]
      omega
    · obtain ⟨i, b, hplace, hlength, hget, hb⟩ := h.inside o ho
      refine ⟨i + 1, b, by omega, ?_, hget, hb⟩
      rw [List.length_cons]
      omega

theorem StandIn.append {v w : List Terminal} {xs ys : List Operator}
    (hv : StandIn place v xs) (hw : StandIn (place + v.length) w ys) :
    StandIn place (v ++ w) (xs ++ ys) where
  ascending := by
    refine List.pairwise_append.mpr ⟨hv.ascending, hw.ascending, fun o ho o' ho' => ?_⟩
    obtain ⟨i, a, hplace, hlength, -⟩ := hv.inside o ho
    obtain ⟨i', a', hplace', -⟩ := hw.inside o' ho'
    omega
  inside := by
    refine List.forall_mem_append.mpr ⟨fun o ho => ?_, fun o ho => ?_⟩
    · obtain ⟨i, a, hplace, hlength, hget, ha⟩ := hv.inside o ho
      refine ⟨i, a, hplace, ?_, ?_, ha⟩
      · rw [List.length_append]
        omega
      · rw [List.getElem?_append_left (by omega), hget]
    · obtain ⟨i, a, hplace, hlength, hget, ha⟩ := hw.inside o ho
      refine ⟨v.length + i, a, by omega, ?_, ?_, ha⟩
      · rw [List.length_append]
        omega
      · rw [List.getElem?_append_right (by omega), Nat.add_sub_cancel_left, hget]

theorem Term.standIn_operators (t : Term) (place taken : Nat) :
    StandIn place t.terminals (t.operators place taken) := by
  induction t generalizing place taken with
  | check c => exact .none _ _
  | not t ih => exact .cons (.inr (.inr rfl)) t.terminals_ne_nil (ih _ _)

theorem standIn_linkOperators (links : List (LogicalOp × Term)) (place taken : Nat) :
    StandIn place (linkTerminals links) (linkOperators place taken links) := by
  induction links generalizing place taken with
  | nil => exact .none _ _
  | cons link links ih =>
      obtain ⟨op, t⟩ := link
      have hop : IsOperatorKind op.terminal.kind := by
        cases op with
        | and => exact .inl rfl
        | or => exact .inr (.inl rfl)
      have hne : t.terminals ++ linkTerminals links ≠ [] :=
        List.append_ne_nil_of_left_ne_nil t.terminals_ne_nil _
      exact .cons hop hne ((t.standIn_operators _ _).append (ih _ _))

theorem Chain.standIn_operators (c : Chain) : StandIn 0 c.terminals c.operators := by
  refine (c.first.standIn_operators 0 0).append ?_
  rw [Nat.zero_add]
  exact standIn_linkOperators _ _ _

/-! ## Levels -/

theorem Term.levels_le_iff (place : Nat) (htaken : taken ≤ D) :
    (∀ o ∈ t.operators place taken, o.level ≤ D) ↔ taken + t.nots ≤ D := by
  induction t generalizing place taken with
  | check c => exact ⟨fun _ => htaken, fun _ => List.forall_mem_nil _⟩
  | not t ih =>
      rw [operators, List.forall_mem_cons, nots]
      constructor
      · rintro ⟨hlevel, hall⟩
        have hlevel : taken + 1 ≤ D := hlevel
        have := (ih (place + 1) hlevel).mp hall
        omega
      · intro h
        have hlevel : taken + 1 ≤ D := by omega
        exact ⟨hlevel, (ih (place + 1) hlevel).mpr (by omega)⟩

theorem linkLevels_le_iff (place taken : Nat) :
    (∀ o ∈ linkOperators place taken links, o.level ≤ D) ↔
      ∀ i link, links[i]? = some link → taken + 1 + i + link.2.nots ≤ D := by
  induction links generalizing place taken with
  | nil => exact ⟨fun _ => nofun, fun _ => List.forall_mem_nil _⟩
  | cons link links ih =>
      obtain ⟨op, t⟩ := link
      rw [linkOperators, List.forall_mem_cons, List.forall_mem_append, ih]
      constructor
      · rintro ⟨hlevel, hterm, hall⟩ i link hlink
        cases i with
        | zero =>
            injection hlink with hlink
            subst hlink
            exact (Term.levels_le_iff (place + 1) hlevel).mp hterm
        | succ i =>
            have := hall i link hlink
            omega
      · intro h
        have hfirst : taken + 1 + 0 + t.nots ≤ D := h 0 (op, t) rfl
        have hlevel : taken + 1 ≤ D := by omega
        refine ⟨hlevel, (Term.levels_le_iff (place + 1) hlevel).mpr (by omega), ?_⟩
        intro i link hlink
        have := h (i + 1) link hlink
        omega

/-- No operator takes a level too many exactly when no term nests too deep. -/
theorem Chain.levels_le_iff (c : Chain) (D : Nat) :
    (∀ o ∈ c.operators, o.level ≤ D) ↔ ∀ i t, c.terms[i]? = some t → i + t.nots ≤ D := by
  rw [operators, List.forall_mem_append, Term.levels_le_iff 0 (Nat.zero_le D),
    linkLevels_le_iff]
  constructor
  · rintro ⟨hfirst, hothers⟩ i t ht
    cases i with
    | zero =>
        injection ht with ht
        subst ht
        exact hfirst
    | succ i =>
        rw [terms, List.getElem?_cons_succ, List.getElem?_map] at ht
        obtain ⟨link, hlink, rfl⟩ := Option.map_eq_some_iff.mp ht
        have := hothers i link hlink
        omega
  · intro h
    refine ⟨h 0 c.first rfl, fun i link hlink => ?_⟩
    have := h (i + 1) link.2 (by simp [terms, hlink])
    omega

/-! ## Depth -/

theorem Check.depth_of_expr? {c : Check} {e : Expr} (he : c.expr? = some e) : e.depth = 1 := by
  cases c with
  | has m ds =>
      obtain ⟨cs, -, rfl⟩ := Option.map_eq_some_iff.mp he
      rfl
  | count m op o =>
      obtain ⟨n, -, rfl⟩ := Option.map_eq_some_iff.mp he
      rfl

theorem Term.depth_of_expr? {e : Expr} (he : t.expr? = some e) : e.depth = t.nots + 1 := by
  induction t generalizing e with
  | check c => exact Check.depth_of_expr? he
  | not t ih =>
      obtain ⟨inner, hinner, rfl⟩ := Option.map_eq_some_iff.mp he
      rw [Expr.depth, ih hinner, nots]
      omega

/-- Joining a term makes an expression deeper by one, or as deep as the term asks for. -/
theorem depth_foldl_join {bound : Nat} {left e : Expr}
    (hfold : links.foldl join (some left) = some e) (hleft : left.depth ≤ bound)
    (hlinks : ∀ link ∈ links, link.2.nots + 1 ≤ bound) :
    e.depth ≤ bound + links.length := by
  induction links generalizing left bound with
  | nil =>
      injection hfold with hfold
      subst hfold
      exact hleft
  | cons link links ih =>
      obtain ⟨op, t⟩ := link
      obtain ⟨right, hright, hfold⟩ := foldl_join_cons_eq_some_iff.mp hfold
      obtain ⟨hterm, hothers⟩ := List.forall_mem_cons.mp hlinks
      have hdepth : (Expr.binary op left right).depth ≤ bound + 1 := by
        have hterm : t.nots + 1 ≤ bound := hterm
        rw [Expr.depth, Term.depth_of_expr? hright]
        omega
      have hbound := ih hfold hdepth fun link hlink => by
        have := hothers link hlink
        omega
      rw [List.length_cons]
      omega

/-- An expression whose operators take few levels is at most twice as deep. -/
theorem Chain.depth_of_expr? {c : Chain} {e : Expr} (he : c.expr? = some e)
    (hlevels : ∀ i t, c.terms[i]? = some t → i + t.nots ≤ D) : e.depth ≤ 2 * D + 1 := by
  obtain ⟨first, links⟩ := c
  rw [expr?] at he
  cases hfirst : first.expr? with
  | none =>
      rw [hfirst, foldl_join_none] at he
      cases he
  | some left =>
      have hfold : links.foldl join (some left) = some e := by rwa [hfirst] at he
      have hleft : left.depth ≤ D + 1 := by
        have := hlevels 0 first rfl
        rw [Term.depth_of_expr? hfirst]
        omega
      have hterm (i : Nat) (link : LogicalOp × Term) (hlink : links[i]? = some link) :
          i + 1 + link.2.nots ≤ D :=
        hlevels (i + 1) link.2 (by simp [terms, hlink])
      have hnots : ∀ link ∈ links, link.2.nots + 1 ≤ D + 1 := by
        intro link hlink
        obtain ⟨i, hget⟩ := List.getElem?_of_mem hlink
        have := hterm i link hget
        omega
      have hlength : links.length ≤ D := by
        cases hlast : links.getLast? with
        | none => simp [List.getLast?_eq_none_iff.mp hlast]
        | some link =>
            rw [List.getLast?_eq_getElem?] at hlast
            have := hterm _ link hlast
            omega
      have := depth_foldl_join hfold hleft hnots
      omega

end TraceCheck.Grammar
