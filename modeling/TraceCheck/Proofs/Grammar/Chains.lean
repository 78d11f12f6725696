import TraceCheck.Proofs.Grammar.Checks
import TraceCheck.Proofs.Grammar.Honesty

/-!
# Chains

A chain is read from left to right with the expression of the terms so far, so
its expression is the fold of its terms.  Each operator takes a level of nesting
for all that follows it.
-/

namespace TraceCheck.Grammar

/-! ## Terminals -/

theorem Term.terminals_ne_nil (t : Term) : t.terminals ≠ [] := by
  cases t with
  | check c =>
      cases c with
      | has m ds => exact List.cons_ne_nil _ _
      | count m op o => exact List.cons_ne_nil _ _
  | not t => exact List.cons_ne_nil _ _

theorem Chain.terminals_ne_nil (d : Chain) : d.terminals ≠ [] :=
  List.append_ne_nil_of_left_ne_nil d.first.terminals_ne_nil _

end TraceCheck.Grammar

namespace TraceCheck.Reading

variable {ctx : Context} {ts rest : List Token}

/-! ## Operators -/

theorem operatorOf?_eq_some_iff
    {op : LogicalOp} (h : Ready ctx ts) :
    operatorOf? (ts.headD ctx.stop) = some op ↔ Spells ts [op.terminal] ts.tail := by
  have hfixed (k : TokenKind) (hk : k.isFixed = true) :
      Spells ts [.fixed k] ts.tail ↔ (ts.headD ctx.stop).kind = k :=
    (spells_fixed_iff h hk).trans (and_iff_left rfl)
  unfold operatorOf?
  cases op with
  | and =>
      rw [LogicalOp.terminal, hfixed .and rfl]
      split <;> simp_all
  | or =>
      rw [LogicalOp.terminal, hfixed .or rfl]
      split <;> simp_all

theorem gives_attempt_some {α : Type} {p : Step α} {a : α} :
    Gives (attempt p) ctx ts (some a) rest ↔ Gives p ctx ts a rest := by
  unfold Gives attempt
  cases p ctx ts with
  | mk found mid result =>
      cases result with
      | ok b => simp
      | error e => cases e <;> simp

/-! ## Chains -/

/-- The terminals of the operators and terms behind the first term of a rule. -/
def linkTerminals (links : List (LogicalOp × Grammar.Term)) : List Terminal :=
  links.flatMap fun (op, t) => op.terminal :: t.terminals

theorem linkTerminals_cons (op : LogicalOp) (t : Grammar.Term)
    (links : List (LogicalOp × Grammar.Term)) :
    linkTerminals ((op, t) :: links) = op.terminal :: (t.terminals ++ linkTerminals links) :=
  rfl

/-- The terms behind the first ones fit, and none nests too deep. -/
structure LinksFit (maxDepth before : Nat) (links : List (LogicalOp × Grammar.Term)) : Prop where
  fits : ∀ link ∈ links, link.2.Fits
  depth : ∀ i link, links[i]? = some link → before + i + link.2.nots ≤ maxDepth

theorem linksFit_nil {maxDepth before : Nat} : LinksFit maxDepth before [] :=
  ⟨List.forall_mem_nil _, nofun⟩

theorem linksFit_cons_iff
    {maxDepth before : Nat} {op : LogicalOp} {t : Grammar.Term}
    {links : List (LogicalOp × Grammar.Term)} :
    LinksFit maxDepth before ((op, t) :: links) ↔
      (t.Fits ∧ before + t.nots ≤ maxDepth) ∧ LinksFit maxDepth (before + 1) links := by
  constructor
  · rintro ⟨hfits, hdepth⟩
    obtain ⟨hfit, hall⟩ := List.forall_mem_cons.mp hfits
    refine ⟨⟨hfit, hdepth 0 (op, t) rfl⟩, hall, fun i link hlink => ?_⟩
    have := hdepth (i + 1) link hlink
    omega
  · rintro ⟨⟨hfit, hterm⟩, hall, hdepth⟩
    refine ⟨List.forall_mem_cons.mpr ⟨hfit, hall⟩, fun i link hlink => ?_⟩
    cases i with
    | zero =>
        injection hlink with hlink
        subst hlink
        exact hterm
    | succ i =>
        have := hdepth i link hlink
        omega

theorem links_next_ne_dot
    {links : List (LogicalOp × Grammar.Term)} (h : Ready ctx ts)
    (hspells : Spells ts (linkTerminals links) []) :
    nextKind ctx ts ≠ .dot := by
  cases links with
  | nil =>
      obtain rfl := spells_nil.mp hspells
      rw [nextKind, List.headD_nil, h.stop]
      decide
  | cons link links =>
      rw [nextKind_of_spells hspells]
      cases link.1 <;> decide

theorem foldl_join_none (links : List (LogicalOp × Grammar.Term)) :
    links.foldl Grammar.join none = none := by
  induction links with
  | nil => rfl
  | cons link links ih => exact ih

theorem foldl_join_cons_eq_some_iff
    {left e : Expr} {op : LogicalOp} {t : Grammar.Term}
    {links : List (LogicalOp × Grammar.Term)} :
    ((op, t) :: links).foldl Grammar.join (some left) = some e ↔
      ∃ right, t.expr? = some right ∧
        links.foldl Grammar.join (some (.binary op left right)) = some e := by
  rw [List.foldl_cons]
  cases ht : t.expr? with
  | none =>
      have hjoin : Grammar.join (some left) (op, t) = none := by
        simp [Grammar.join, ht]
      simp [hjoin, foldl_join_none]
  | some right =>
      have hjoin : Grammar.join (some left) (op, t) = some (.binary op left right) := by
        simp [Grammar.join, ht]
      simp [hjoin]

theorem chain_sound
    {fuel taken : Nat} {left e : Expr} (h : Ready ctx ts) (hfuel : ts.length < fuel)
    (he : Gives (chain fuel taken (some left)) ctx ts (some e) []) :
    ∃ links, LinksFit ctx.maxDepth (taken + 1) links ∧
      links.foldl Grammar.join (some left) = some e ∧ Spells ts (linkTerminals links) [] := by
  induction fuel generalizing ts taken left e with
  | zero => omega
  | succ fuel ih =>
      rw [chain_succ, gives_peek_bind] at he
      split at he
      next hop =>
        obtain ⟨heq, rfl⟩ := gives_pure.mp he
        exact ⟨[], linksFit_nil, heq.symm, spells_nil.mpr rfl⟩
      next op hop =>
        have hspells := (operatorOf?_eq_some_iff h).mp hop
        rw [gives_pass_bind, gives_remark_bind, gives_bind] at he
        obtain ⟨u, mid, henter, he⟩ := he
        obtain ⟨hlt, rfl⟩ := gives_enter.mp henter
        rw [gives_size_bind, gives_bind] at he
        obtain ⟨right, mid, hright, he⟩ := he
        cases right with
        | none => exact absurd he.1 (Barren.chain fuel (taken + 1) _ _ _)
        | some right =>
            obtain ⟨d, hfits, hdepth, hexpr, hd⟩ :=
              term_sound h.tail hlt (gives_attempt_some.mp hright)
            have hlen : mid.length < fuel := by
              have := hspells.length_lt
              have := hd.length_add
              omega
            obtain ⟨links, hlinksFit, hfold, hlinks⟩ := ih (h.tail.of_spells hd) hlen he
            refine ⟨(op, d) :: links, ?_, ?_, ?_⟩
            · exact linksFit_cons_iff.mpr ⟨⟨hfits, hdepth⟩, hlinksFit⟩
            · exact foldl_join_cons_eq_some_iff.mpr ⟨right, hexpr, hfold⟩
            · rw [linkTerminals_cons]
              exact spells_cons_append.mpr ⟨_, hspells, spells_append.mpr ⟨_, hd, hlinks⟩⟩

theorem chain_complete
    {fuel : Nat} (taken : Nat) {left e : Expr} {links : List (LogicalOp × Grammar.Term)}
    (h : Ready ctx ts) (hfuel : ts.length < fuel)
    (hlinksFit : LinksFit ctx.maxDepth (taken + 1) links)
    (hfold : links.foldl Grammar.join (some left) = some e)
    (hspells : Spells ts (linkTerminals links) []) :
    Gives (chain fuel taken (some left)) ctx ts (some e) [] := by
  induction links generalizing ts fuel taken left e with
  | nil =>
      obtain ⟨fuel, rfl⟩ := Nat.exists_eq_succ_of_ne_zero (Nat.ne_zero_of_lt hfuel)
      obtain rfl := spells_nil.mp hspells
      rw [chain_succ, gives_peek_bind, List.headD_nil, operatorOf?, h.stop]
      exact gives_pure.mpr ⟨hfold.symm, rfl⟩
  | cons link links ih =>
      obtain ⟨fuel, rfl⟩ := Nat.exists_eq_succ_of_ne_zero (Nat.ne_zero_of_lt hfuel)
      obtain ⟨op, d⟩ := link
      obtain ⟨right, hexpr, hfold⟩ := foldl_join_cons_eq_some_iff.mp hfold
      obtain ⟨⟨hfits, hdepth⟩, hothers⟩ := linksFit_cons_iff.mp hlinksFit
      rw [linkTerminals_cons] at hspells
      obtain ⟨mid, hop, hspells⟩ := spells_cons_append.mp hspells
      obtain rfl := tail_of_spells hop
      obtain ⟨mid, hd, hlinks⟩ := spells_append.mp hspells
      have hmid := h.tail.of_spells hd
      have hright := term_complete (taken + 1) h.tail h.tail.bounded hfits hdepth hexpr hd
        (links_next_ne_dot hmid hlinks)
      have hlen : mid.length < fuel := by
        have := hop.length_lt
        have := hd.length_add
        omega
      have hrest := ih (taken + 1) hmid hlen hothers hfold hlinks
      rw [chain_succ, gives_peek_bind, (operatorOf?_eq_some_iff h).mpr hop]
      rw [gives_pass_bind, gives_remark_bind]
      refine gives_bind.mpr ⟨(), _, gives_enter.mpr ⟨by omega, rfl⟩, ?_⟩
      apply gives_size_bind.mpr
      exact gives_bind.mpr ⟨some right, mid, gives_attempt_some.mpr hright, hrest⟩

theorem chain_fits_iff
    {maxDepth : Nat} {d : Grammar.Term} {links : List (LogicalOp × Grammar.Term)} :
    (⟨d, links⟩ : Grammar.Chain).Fits maxDepth ↔
      (d.Fits ∧ 0 + d.nots ≤ maxDepth) ∧ LinksFit maxDepth (0 + 1) links := by
  unfold Grammar.Chain.Fits Grammar.Chain.terms
  constructor
  · rintro ⟨hall, hdepths⟩
    obtain ⟨hfits, hall⟩ := List.forall_mem_cons.mp hall
    refine ⟨⟨hfits, hdepths 0 d rfl⟩, List.forall_mem_map.mp hall, fun i link hlink => ?_⟩
    have := hdepths (i + 1) link.2 (by simp [hlink])
    omega
  · rintro ⟨⟨hfits, hdepth⟩, hall, hdepths⟩
    refine ⟨List.forall_mem_cons.mpr ⟨hfits, List.forall_mem_map.mpr hall⟩, ?_⟩
    intro i t ht
    cases i with
    | zero =>
        injection ht with ht
        subst ht
        exact hdepth
    | succ i =>
        rw [List.getElem?_cons_succ, List.getElem?_map] at ht
        obtain ⟨link, hlink, rfl⟩ := Option.map_eq_some_iff.mp ht
        have := hdepths i link hlink
        omega

/-- Reading takes all tokens exactly when they spell a rule that fits. -/
theorem gives_expression {e : Expr} (h : Ready ctx ts) :
    Gives expression ctx ts (some e) [] ↔
      ∃ d : Grammar.Chain, d.Fits ctx.maxDepth ∧ d.expr? = some e ∧
        Spells ts d.terminals [] := by
  rw [expression_eq, gives_size_bind, gives_bind]
  constructor
  · rintro ⟨first, mid, hfirst, he⟩
    rw [gives_size_bind] at he
    cases first with
    | none => exact absurd he.1 (Barren.chain ctx.size 0 _ _ _)
    | some left =>
        obtain ⟨d, hfits, hdepth, hexpr, hd⟩ :=
          term_sound h (Nat.zero_le _) (gives_attempt_some.mp hfirst)
        have hmid := h.of_spells hd
        obtain ⟨links, hlinksFit, hfold, hlinks⟩ := chain_sound hmid hmid.bounded he
        refine ⟨⟨d, links⟩, ?_, ?_, spells_append.mpr ⟨_, hd, hlinks⟩⟩
        · exact chain_fits_iff.mpr ⟨⟨hfits, hdepth⟩, hlinksFit⟩
        · rw [Grammar.Chain.expr?, hexpr]
          exact hfold
  · rintro ⟨⟨d, links⟩, hfits, hexpr, hspells⟩
    obtain ⟨⟨hfits, hdepth⟩, hlinksFit⟩ := chain_fits_iff.mp hfits
    obtain ⟨mid, hd, hlinks⟩ := spells_append.mp hspells
    have hmid := h.of_spells hd
    rw [Grammar.Chain.expr?] at hexpr
    cases hleft : d.expr? with
    | none =>
        rw [hleft, foldl_join_none] at hexpr
        cases hexpr
    | some left =>
        rw [hleft] at hexpr
        have hfirst := term_complete 0 h h.bounded hfits hdepth hleft hd
          (links_next_ne_dot hmid hlinks)
        have hothers := chain_complete 0 hmid hmid.bounded hlinksFit hexpr hlinks
        exact ⟨some left, mid, gives_attempt_some.mpr hfirst, gives_size_bind.mpr hothers⟩

end TraceCheck.Reading
