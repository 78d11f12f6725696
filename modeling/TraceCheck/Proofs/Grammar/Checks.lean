import TraceCheck.Proofs.Grammar.Clauses

/-!
# Checks and terms

A check is read exactly when the tokens spell a derivation of one that fits.
The clauses of a check are read as far as they go, so no dot may follow.  A
term takes a level of nesting for each `not`.
-/

namespace TraceCheck.Reading

variable {ctx : Context} {ts rest : List Token}

/-! ## Counts -/

/-- What begins with the word for the trace, a dot and another word. -/
theorem spells_trace_iff
    {k : TokenKind} {w : List Terminal} (h : Ready ctx ts) (hfixed : k.isFixed = true) :
    Spells ts (.fixed .trace :: .fixed .dot :: .fixed k :: w) rest ↔
      nextKind ctx ts = .trace ∧ nextKind ctx ts.tail = .dot ∧
        nextKind ctx ts.tail.tail = k ∧ Spells ts.tail.tail.tail w rest := by
  rw [spells_fixed_cons_iff h rfl, spells_fixed_cons_iff h.tail rfl,
    spells_fixed_cons_iff h.tail.tail hfixed]

theorem countOperand_sound
    {op : Comparator} {o : CountOperand} (h : Ready ctx ts)
    (ho : Gives (countOperand op) ctx ts o rest) :
    ∃ d : Grammar.Operand, d.Fits ∧ d.meaning? = some o ∧ Spells ts d.terminals rest := by
  unfold countOperand at ho
  rw [gives_peek_bind] at ho
  split at ho
  next hkind =>
    rw [gives_pass_bind] at ho
    have hne : nextKind ctx ts ≠ ctx.stop.kind := by
      rw [h.stop, nextKind, hkind]
      decide
    have hnext := spells_next hne
    rw [Token.terminal, hkind] at hnext
    split at ho
    next n hn =>
      rw [gives_remark_bind, gives_pure] at ho
      obtain ⟨rfl, rfl⟩ := ho
      obtain ⟨hdigits, hlt, -⟩ := (h.numeral_of_number hkind).readNat?_eq_some_iff.mp hn
      refine ⟨.number (ts.headD ctx.stop).text, ⟨hdigits, hlt⟩, ?_, hnext⟩
      rw [Grammar.Operand.meaning?, hn]
      rfl
    next => exact absurd ho not_gives_fail
  next hkind =>
    rw [gives_pass_bind] at ho
    simp only [gives_bind, gives_expect, gives_pure] at ho
    obtain ⟨u, mid, ⟨hdot, rfl⟩, v, mid', ⟨hcount, rfl⟩, name, mid'', hname, rfl, rfl⟩ := ho
    obtain ⟨m, rfl, hm⟩ := (gives_spanArgument h.tail.tail.tail).mp hname
    have hspells := (spells_trace_iff h rfl).mpr ⟨hkind, hdot, hcount, hm⟩
    exact ⟨.count m, trivial, rfl, hspells⟩
  next => exact absurd ho not_gives_fail

theorem countOperand_complete
    (op : Comparator) {d : Grammar.Operand} {o : CountOperand} (h : Ready ctx ts)
    (ho : d.meaning? = some o) (hspells : Spells ts d.terminals rest) :
    Gives (countOperand op) ctx ts o rest := by
  unfold countOperand
  rw [gives_peek_bind]
  cases d with
  | number spelling =>
      obtain ⟨n, hn, rfl⟩ := Option.map_eq_some_iff.mp ho
      obtain ⟨t, rfl, ht⟩ := spells_singleton.mp hspells
      rw [List.headD_cons, Token.kind_of_terminal ht, Token.text_of_terminal ht]
      simp only [gives_pass_bind, hn]
      apply gives_remark_bind.mpr
      exact gives_pure.mpr ⟨rfl, rfl⟩
  | count m =>
      injection ho with ho
      subst ho
      obtain ⟨hkind, hdot, hcount, hm⟩ := (spells_trace_iff h rfl).mp hspells
      have hname := (gives_spanArgument h.tail.tail.tail).mpr ⟨m, rfl, hm⟩
      rw [show (ts.headD ctx.stop).kind = .trace from hkind]
      rw [gives_pass_bind]
      simp only [gives_bind, gives_expect, gives_pure]
      exact ⟨(), _, ⟨hdot, rfl⟩, (), _, ⟨hcount, rfl⟩, m.text, rest, hname, rfl, rfl⟩

/-! ## Checks -/

theorem spanCheck_sound {e : Expr} (h : Ready ctx ts) (he : Gives spanCheck ctx ts e rest) :
    ∃ d : Grammar.Check, d.Fits ∧ d.expr? = some e ∧ Spells ts d.terminals rest := by
  unfold spanCheck at he
  simp only [gives_bind (p := expect _ _), gives_expect, gives_peek_bind] at he
  obtain ⟨u, mid, ⟨htrace, rfl⟩, v, mid', ⟨hdot, rfl⟩, he⟩ := he
  have hready := h.tail.tail.tail
  split at he
  next hkind =>
    rw [gives_pass_bind, gives_bind] at he
    obtain ⟨name, mid, hname, he⟩ := he
    obtain ⟨m, rfl, hm⟩ := (gives_spanArgument hready).mp hname
    have hmid := hready.of_spells hm
    rw [gives_size_bind, gives_bind] at he
    obtain ⟨cs, mid', hcs, hend⟩ := he
    obtain ⟨rfl, rfl⟩ := gives_pure.mp hend
    obtain ⟨ds, hall, hmap, hds⟩ := clauses_sound hmid hcs
    have hargument := spells_append.mpr ⟨mid, hm, hds⟩
    refine ⟨.has m ds, hall, ?_, (spells_trace_iff h rfl).mpr ⟨htrace, hdot, hkind, hargument⟩⟩
    rw [Grammar.Check.expr?, hmap]
    rfl
  next hkind =>
    rw [gives_pass_bind, gives_bind] at he
    obtain ⟨name, mid, hname, he⟩ := he
    obtain ⟨m, rfl, hm⟩ := (gives_spanArgument hready).mp hname
    have hmid := hready.of_spells hm
    rw [gives_peek_bind, gives_bind] at he
    obtain ⟨op, mid', hop, he⟩ := he
    have hspells := (gives_comparator hmid).mp hop
    simp only [gives_ite, not_gives_fail, and_false, or_false] at he
    obtain ⟨hrel, he⟩ := he
    obtain ⟨o, mid'', ho, hend⟩ := gives_bind.mp he
    obtain ⟨rfl, rfl⟩ := gives_pure.mp hend
    obtain ⟨d, hfits, hmeaning, hd⟩ := countOperand_sound (hmid.of_spells hspells) ho
    have hcount := (spells_trace_iff h rfl).mpr ⟨htrace, hdot, hkind, hm⟩
    have hsides := spells_cons_append.mpr ⟨mid', hspells, hd⟩
    refine ⟨.count m op d, ⟨hrel, hfits⟩, ?_, spells_append.mpr ⟨mid, hcount, hsides⟩⟩
    rw [Grammar.Check.expr?, hmeaning]
    rfl
  next => exact absurd he not_gives_unexpected

theorem spanCheck_complete
    {d : Grammar.Check} {e : Expr} (h : Ready ctx ts) (hfits : d.Fits)
    (he : d.expr? = some e) (hspells : Spells ts d.terminals rest)
    (hfollow : nextKind ctx rest ≠ .dot) :
    Gives spanCheck ctx ts e rest := by
  unfold spanCheck
  simp only [gives_bind (p := expect _ _), gives_expect, gives_peek_bind]
  have hready := h.tail.tail.tail
  cases d with
  | has m ds =>
      obtain ⟨cs, hmap, rfl⟩ := Option.map_eq_some_iff.mp he
      obtain ⟨htrace, hdot, hhas, hspells⟩ := (spells_trace_iff h rfl).mp hspells
      obtain ⟨mid, hm, hds⟩ := spells_append.mp hspells
      have hmid := hready.of_spells hm
      refine ⟨(), _, ⟨htrace, rfl⟩, (), _, ⟨hdot, rfl⟩, ?_⟩
      rw [show (ts.tail.tail.headD ctx.stop).kind = .has from hhas]
      have hname := (gives_spanArgument hready).mpr ⟨m, rfl, hm⟩
      have hcs := clauses_complete hmid hmid.bounded hfits hmap hds hfollow
      apply gives_pass_bind.mpr
      refine gives_bind.mpr ⟨m.text, mid, hname, ?_⟩
      apply gives_size_bind.mpr
      exact gives_bind.mpr ⟨cs, rest, hcs, gives_pure.mpr ⟨rfl, rfl⟩⟩
  | count m op d =>
      obtain ⟨o, hmeaning, rfl⟩ := Option.map_eq_some_iff.mp he
      obtain ⟨mid, hcount, hspells⟩ := spells_append.mp hspells
      obtain ⟨htrace, hdot, hkind, hm⟩ := (spells_trace_iff h rfl).mp hcount
      obtain ⟨mid', hop, hd⟩ := spells_cons_append.mp hspells
      have hmid := hready.of_spells hm
      refine ⟨(), _, ⟨htrace, rfl⟩, (), _, ⟨hdot, rfl⟩, ?_⟩
      rw [show (ts.tail.tail.headD ctx.stop).kind = .count from hkind]
      have hname := (gives_spanArgument hready).mpr ⟨m, rfl, hm⟩
      have ho := countOperand_complete op (hmid.of_spells hop) hmeaning hd
      apply gives_pass_bind.mpr
      refine gives_bind.mpr ⟨m.text, mid, hname, ?_⟩
      apply gives_peek_bind.mpr
      refine gives_bind.mpr ⟨op, mid', (gives_comparator hmid).mpr hop, ?_⟩
      rw [if_pos hfits.1]
      exact gives_bind.mpr ⟨o, rest, ho, gives_pure.mpr ⟨rfl, rfl⟩⟩

/-! ## Terms -/

theorem check_next_ne_not
    {d : Grammar.Check} (hspells : Spells ts d.terminals rest) :
    nextKind ctx ts ≠ .not := by
  have hkind : nextKind ctx ts = .trace := by
    cases d with
    | has m ds => exact nextKind_of_spells hspells
    | count m op d => exact nextKind_of_spells hspells
  rw [hkind]
  decide

theorem term_sound
    {fuel taken : Nat} {e : Expr} (h : Ready ctx ts) (htaken : taken ≤ ctx.maxDepth)
    (he : Gives (term fuel taken) ctx ts e rest) :
    ∃ d : Grammar.Term, d.Fits ∧ taken + d.nots ≤ ctx.maxDepth ∧ d.expr? = some e ∧
      Spells ts d.terminals rest := by
  induction fuel generalizing ts taken e with
  | zero => exact absurd he not_gives_unexpected
  | succ fuel ih =>
      rw [term_succ, gives_peek_bind, gives_ite, gives_pass_bind] at he
      rcases he with ⟨hkind, he⟩ | ⟨-, he⟩
      · simp only [gives_bind, gives_enter, gives_pure] at he
        obtain ⟨u, mid, ⟨hlt, rfl⟩, inner, mid', hinner, rfl, rfl⟩ := he
        obtain ⟨d, hfits, hdepth, hexpr, hspells⟩ := ih h.tail hlt hinner
        refine ⟨.not d, hfits, by rw [Grammar.Term.nots]; omega, ?_, ?_⟩
        · rw [Grammar.Term.expr?, hexpr]
          rfl
        · exact (spells_fixed_cons_iff h rfl).mpr ⟨hkind, hspells⟩
      · obtain ⟨d, hfits, hexpr, hspells⟩ := spanCheck_sound h he
        exact ⟨.check d, hfits, htaken, hexpr, hspells⟩

theorem term_complete
    {fuel : Nat} (taken : Nat) {d : Grammar.Term} {e : Expr} (h : Ready ctx ts)
    (hfuel : ts.length < fuel) (hfits : d.Fits) (hdepth : taken + d.nots ≤ ctx.maxDepth)
    (he : d.expr? = some e) (hspells : Spells ts d.terminals rest)
    (hfollow : nextKind ctx rest ≠ .dot) :
    Gives (term fuel taken) ctx ts e rest := by
  induction d generalizing ts fuel taken e with
  | check d =>
      obtain ⟨fuel, rfl⟩ := Nat.exists_eq_succ_of_ne_zero (Nat.ne_zero_of_lt hfuel)
      rw [term_succ, gives_peek_bind, gives_ite]
      exact Or.inr ⟨check_next_ne_not hspells, spanCheck_complete h hfits he hspells hfollow⟩
  | not d ih =>
      obtain ⟨fuel, rfl⟩ := Nat.exists_eq_succ_of_ne_zero (Nat.ne_zero_of_lt hfuel)
      obtain ⟨inner, hinner, rfl⟩ := Option.map_eq_some_iff.mp he
      have hlen : ts.tail.length < fuel := by
        have := hspells.length_lt
        rw [List.length_tail]
        omega
      obtain ⟨hkind, hspells⟩ := (spells_fixed_cons_iff h rfl).mp hspells
      rw [Grammar.Term.nots] at hdepth
      have hgives := ih (taken + 1) h.tail hlen hfits (by omega) hinner hspells
      rw [term_succ, gives_peek_bind, gives_ite, gives_pass_bind]
      simp only [gives_bind, gives_enter, gives_pure]
      exact Or.inl ⟨hkind, (), _, ⟨by omega, rfl⟩, inner, rest, hgives, rfl, rfl⟩

end TraceCheck.Reading
