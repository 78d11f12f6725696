import TraceCheck.Proofs.Grammar.Chains

/-!
# What derivations denote

A derivation that fits and whose numbers are numerals denotes an expression:
patterns are vetted, numerals are numbers, and numbers that are counts are small
enough.
-/

namespace TraceCheck.Reading

variable {ctx : Context} {ts rest : List Token}

theorem exists_mapM_eq_some
    {σ τ : Type} {f : σ → Option τ} {as : List σ} (h : ∀ a ∈ as, ∃ b, f a = some b) :
    ∃ bs, as.mapM f = some bs := by
  induction as with
  | nil => exact ⟨[], rfl⟩
  | cons a as ih =>
      obtain ⟨⟨b, hb⟩, hall⟩ := List.forall_mem_cons.mp h
      obtain ⟨bs, hbs⟩ := ih hall
      exact ⟨b :: bs, mapM_cons_eq_some_iff.mpr ⟨b, bs, hb, hbs, rfl⟩⟩

/-- Terminals that well-spelled tokens have. -/
def WellSpelled (w : List Terminal) : Prop :=
  ∀ a ∈ w, a.kind = .number → Decimal.Numeral a.text.toList

theorem wellSpelled_of_spells
    {w : List Terminal} (h : Ready ctx ts) (hspells : Spells ts w rest) :
    WellSpelled w := by
  obtain ⟨front, rfl, rfl⟩ := hspells
  intro a ha hkind
  obtain ⟨t, ht, rfl⟩ := List.mem_map.mp ha
  exact (h.wellSpelled t (List.mem_append_left _ ht)).2.2 hkind

theorem wellSpelled_append_iff {v w : List Terminal} :
    WellSpelled (v ++ w) ↔ WellSpelled v ∧ WellSpelled w :=
  List.forall_mem_append

theorem wellSpelled_cons_iff {a : Terminal} {w : List Terminal} :
    WellSpelled (a :: w) ↔ (a.kind = .number → Decimal.Numeral a.text.toList) ∧ WellSpelled w :=
  List.forall_mem_cons

theorem exists_scalar_literal
    {s : Grammar.Scalar} (h : WellSpelled [s.terminal]) :
    ∃ x, s.literal? = some x := by
  cases s with
  | string content => exact ⟨_, rfl⟩
  | bool b => exact ⟨_, rfl⟩
  | number spelling =>
      obtain ⟨x, hx⟩ := Decimal.Numeral.exists_readDouble? (h _ List.mem_cons_self rfl)
      exact ⟨.number x, Option.map_eq_some_iff.mpr ⟨x, hx, rfl⟩⟩

theorem mem_itemTerminals {s : Grammar.Scalar} {ss : List Grammar.Scalar} (h : s ∈ ss) :
    s.terminal ∈ Grammar.itemTerminals ss := by
  induction ss with
  | nil => cases h
  | cons s' ss ih =>
      cases ss with
      | nil =>
          rw [itemTerminals_singleton, List.mem_singleton.mp h]
          exact List.mem_cons_self
      | cons s'' ss =>
          rw [itemTerminals_cons_cons]
          rcases List.mem_cons.mp h with rfl | hmem
          · exact List.mem_cons_self
          · exact List.mem_append_right _ (List.mem_append_right _ (ih hmem))

theorem exists_ofText
    {s : String} {program : Regex.Program} (h : Pattern.vet s = .ok program) :
    ∃ p, (Pattern.ofText s).toOption = some p := by
  unfold Pattern.ofText
  split
  next p hp => exact ⟨_, rfl⟩
  next e he =>
    rw [h] at he
    cases he

theorem exists_value_literal
    {op : Comparator} {v : Grammar.Value} (h : WellSpelled v.terminals) (hfits : v.Fits op) :
    ∃ x, v.literal? op = some x := by
  cases v with
  | list items =>
      have hall : ∀ s ∈ items, ∃ x, s.literal? = some x := by
        intro s hs
        refine exists_scalar_literal fun a ha => h a ?_
        obtain rfl : a = s.terminal := by simpa using ha
        exact List.mem_cons_of_mem _ (mem_itemTerminals hs)
      obtain ⟨xs, hxs⟩ := exists_mapM_eq_some hall
      exact ⟨.list xs, Option.map_eq_some_iff.mpr ⟨xs, hxs, rfl⟩⟩
  | scalar s =>
      cases s with
      | number spelling => exact exists_scalar_literal h
      | bool b => exact ⟨_, rfl⟩
      | string content =>
          by_cases hop : op = .matches
          · obtain ⟨p, hp⟩ := hfits hop
            obtain ⟨q, hq⟩ := exists_ofText hp
            rw [Grammar.Value.literal?, if_pos hop]
            exact ⟨.pattern q, Option.map_eq_some_iff.mpr ⟨q, hq, rfl⟩⟩
          · exact ⟨_, value_literal?_string hop⟩

theorem exists_clause_meaning
    {c : Grammar.Clause} (h : WellSpelled c.terminals) (hfits : c.test.Fits) :
    ∃ x, c.meaning? = some x := by
  have htest : ∃ t, c.test.meaning? = some t := by
    have hspelled := (wellSpelled_append_iff.mp (wellSpelled_append_iff.mp h).2).2
    cases htest : c.test with
    | truthy => exact ⟨_, rfl⟩
    | compare op v =>
        rw [htest] at hspelled hfits
        obtain ⟨x, hx⟩ := exists_value_literal (wellSpelled_cons_iff.mp hspelled).2 hfits
        exact ⟨.compare op x, Option.map_eq_some_iff.mpr ⟨x, hx, rfl⟩⟩
  obtain ⟨t, ht⟩ := htest
  exact ⟨_, Option.map_eq_some_iff.mpr ⟨t, ht, rfl⟩⟩

theorem exists_check_expr
    {c : Grammar.Check} (h : WellSpelled c.terminals) (hfits : c.Fits) :
    ∃ e, c.expr? = some e := by
  cases c with
  | has m ds =>
      have hall : ∀ d ∈ ds, ∃ x, d.meaning? = some x := by
        intro d hd
        refine exists_clause_meaning (fun a ha => h a ?_) (hfits d hd)
        have hmem : a ∈ ds.flatMap Grammar.Clause.whereTerminals :=
          List.mem_flatMap.mpr ⟨d, hd, by
            simp [Grammar.Clause.whereTerminals, Grammar.parenthesized, ha]⟩
        simp [Grammar.Check.terminals, hmem]
      obtain ⟨cs, hcs⟩ := exists_mapM_eq_some hall
      exact ⟨.has m.text cs, Option.map_eq_some_iff.mpr ⟨cs, hcs, rfl⟩⟩
  | count m op d =>
      cases d with
      | count m' => exact ⟨_, rfl⟩
      | number spelling =>
          have hnumeral : Decimal.Numeral spelling.toList :=
            h ⟨.number, spelling⟩ (by simp [Grammar.Check.terminals, Grammar.Operand.terminals]) rfl
          have hn := hnumeral.readNat?_eq_some_iff.mpr ⟨hfits.2.1, hfits.2.2, rfl⟩
          exact ⟨.count m.text op (.literal _), by
            rw [Grammar.Check.expr?, Grammar.Operand.meaning?, hn]
            rfl⟩

theorem exists_term_expr
    {t : Grammar.Term} (h : WellSpelled t.terminals) (hfits : t.Fits) :
    ∃ e, t.expr? = some e := by
  induction t with
  | check c => exact exists_check_expr h hfits
  | not t ih =>
      obtain ⟨e, he⟩ := ih (wellSpelled_cons_iff.mp h).2 hfits
      exact ⟨.not e, Option.map_eq_some_iff.mpr ⟨e, he, rfl⟩⟩

theorem exists_links_expr
    {links : List (LogicalOp × Grammar.Term)} (left : Expr)
    (h : WellSpelled (linkTerminals links)) (hfits : ∀ link ∈ links, link.2.Fits) :
    ∃ e, links.foldl Grammar.join (some left) = some e := by
  induction links generalizing left with
  | nil => exact ⟨left, rfl⟩
  | cons link links ih =>
      obtain ⟨op, t⟩ := link
      obtain ⟨hfirst, hall⟩ := List.forall_mem_cons.mp hfits
      rw [linkTerminals_cons] at h
      obtain ⟨ht, hlinks⟩ := wellSpelled_append_iff.mp (wellSpelled_cons_iff.mp h).2
      obtain ⟨right, hright⟩ := exists_term_expr ht hfirst
      obtain ⟨e, he⟩ := ih (.binary op left right) hlinks hall
      exact ⟨e, foldl_join_cons_eq_some_iff.mpr ⟨right, hright, he⟩⟩

/-- A rule that fits denotes an expression. -/
theorem exists_chain_expr
    {c : Grammar.Chain} {maxDepth : Nat} (h : WellSpelled c.terminals)
    (hfits : c.Fits maxDepth) :
    ∃ e, c.expr? = some e := by
  obtain ⟨d, links⟩ := c
  obtain ⟨⟨hfirst, -⟩, hall, -⟩ := chain_fits_iff.mp hfits
  obtain ⟨hd, hlinks⟩ := wellSpelled_append_iff.mp h
  obtain ⟨left, hleft⟩ := exists_term_expr hd hfirst
  rw [Grammar.Chain.expr?, hleft]
  exact exists_links_expr left hlinks hall

end TraceCheck.Reading
