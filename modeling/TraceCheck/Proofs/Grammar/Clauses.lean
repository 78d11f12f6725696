import TraceCheck.Proofs.Grammar.Values

/-!
# Clauses

The words that introduce and compare are names as well, so a clause that begins
with `not` is either negated or asks for an attribute of that name.  One token
behind the word that follows decides, and it decides as the grammar does: a
name that is negated is never followed by a value, and whatever follows a name
`not` is no word, except for a comparator in front of a value.
-/

namespace TraceCheck.Reading

variable {ctx : Context} {ts rest : List Token}

/-! ## Tests -/

theorem comparator_kind_ne_paren (op : Comparator) : op.terminal.kind ≠ .rParen := by
  cases op <;> decide

/-- What is asked of an attribute in front of a closing parenthesis. -/
theorem gives_attributeTest
    (name : DottedName) {test : Test} (h : Ready ctx ts)
    (hclose : nextKind ctx rest = .rParen) :
    Gives (attributeTest name) ctx ts test rest ↔
      ∃ d : Grammar.Test, d.Fits ∧ d.meaning? = some test ∧ Spells ts d.terminals rest := by
  unfold attributeTest
  rw [gives_peek_bind, gives_ite, gives_pure]
  constructor
  · rintro (⟨-, rfl, rfl⟩ | ⟨-, hcompare⟩)
    · exact ⟨.truthy, trivial, rfl, spells_nil.mpr rfl⟩
    · obtain ⟨op, mid, hop, hcompare⟩ := gives_bind.mp hcompare
      obtain ⟨x, mid', hx, hend⟩ := gives_bind.mp hcompare
      rw [gives_remark_bind] at hend
      obtain ⟨rfl, rfl⟩ := gives_pure.mp hend
      have hspells := (gives_comparator h).mp hop
      obtain ⟨v, hfits, hlit, hv⟩ := (gives_value (h.of_spells hspells)).mp hx
      exact ⟨.compare op v, hfits, by rw [Grammar.Test.meaning?, hlit]; rfl,
        spells_cons_append.mpr ⟨mid, hspells, hv⟩⟩
  · rintro ⟨d, hfits, hmeaning, hspells⟩
    cases d with
    | truthy =>
        injection hmeaning with hmeaning
        obtain rfl := spells_nil.mp hspells
        exact Or.inl ⟨hclose, hmeaning.symm, rfl⟩
    | compare op v =>
        obtain ⟨x, hlit, rfl⟩ := Option.map_eq_some_iff.mp hmeaning
        obtain ⟨mid, hop, hv⟩ := spells_cons_append.mp hspells
        have hne : nextKind ctx ts ≠ .rParen := by
          rw [nextKind_of_spells hop]
          exact comparator_kind_ne_paren op
        refine Or.inr ⟨hne, gives_bind.mpr ⟨op, mid, (gives_comparator h).mpr hop, ?_⟩⟩
        refine gives_bind.mpr ⟨x, rest, (gives_value (h.of_spells hop)).mpr
          ⟨v, hfits, hlit, hv⟩, ?_⟩
        exact gives_remark_bind.mpr (gives_pure.mpr ⟨rfl, rfl⟩)

/-! ## Negation -/

/-- The kinds with which values begin. -/
def isValueKind : TokenKind → Bool
  | .string | .number | .true | .false | .lBracket => true
  | _ => false

theorem beginsValue_eq (t : Token) : beginsValue t = isValueKind t.kind := by
  unfold beginsValue isValueKind
  split <;> simp_all

theorem value_terminals_cons (v : Grammar.Value) :
    ∃ a w, v.terminals = a :: w ∧ isValueKind a.kind = true := by
  cases v with
  | scalar s =>
      refine ⟨s.terminal, [], rfl, ?_⟩
      cases s with
      | string content => rfl
      | number spelling => rfl
      | bool b => cases b <;> rfl
  | list items => exact ⟨_, _, rfl, rfl⟩

theorem any_beginsValue (h : Ready ctx ts) :
    ts.head?.any beginsValue = isValueKind (nextKind ctx ts) := by
  cases ts with
  | nil =>
      rw [nextKind, List.headD_nil, h.stop]
      rfl
  | cons t us => exact beginsValue_eq t

/-- Behind the first word of the name of a clause comes a dot, a comparator or
the end of the clause. -/
theorem clause_tail_cases
    {d : Grammar.Test} {ws : List Grammar.Word}
    (hspells : Spells ts (dottedTerminals ws ++ d.terminals) rest)
    (hclose : nextKind ctx rest = .rParen) :
    nextKind ctx ts = .dot ∨ nextKind ctx ts = .rParen ∨
      ∃ op v, Spells ts (Comparator.terminal op :: Grammar.Value.terminals v) rest := by
  cases ws with
  | cons w ws => exact Or.inl (nextKind_of_spells hspells)
  | nil =>
      cases d with
      | truthy =>
          obtain rfl := spells_nil.mp hspells
          exact Or.inr (Or.inl hclose)
      | compare op v => exact Or.inr (Or.inr ⟨op, v, hspells⟩)

/-- A name in a clause is taken for negated when `not` stands before it. -/
theorem isNegation_of_name
    {w : Grammar.Word} {ws : List Grammar.Word} {d : Grammar.Test} (h : Ready ctx ts)
    (hspells : Spells ts (w.terminal :: (dottedTerminals ws ++ d.terminals)) rest)
    (hclose : nextKind ctx rest = .rParen) :
    isNegation ts = true := by
  obtain ⟨t, us, rfl, ht, hus⟩ := spells_cons.mp hspells
  have hword : t.kind.isWord = true := by
    rw [Token.kind_of_terminal ht]
    exact w.isWord
  have hnext : isValueKind (nextKind ctx us) = false := by
    rcases clause_tail_cases hus hclose with hdot | hparen | ⟨op, v, hop⟩
    · rw [hdot]
      rfl
    · rw [hparen]
      rfl
    · rw [nextKind_of_spells hop]
      cases op <;> rfl
  rw [isNegation, any_beginsValue h.of_cons, hnext, hword]
  simp

/-- The word `not` is a name where nothing that it could negate follows. -/
theorem not_isNegation_of_tail
    {ws : List Grammar.Word} {d : Grammar.Test} (h : Ready ctx ts)
    (hspells : Spells ts (dottedTerminals ws ++ d.terminals) rest)
    (hclose : nextKind ctx rest = .rParen) :
    isNegation ts = false := by
  cases ts with
  | nil => rfl
  | cons t us =>
      have hnoWord (hkind : t.kind.isWord = false) : isNegation (t :: us) = false := by
        rw [isNegation, isComparatorWord, hkind]
        simp
      rcases clause_tail_cases hspells hclose with hdot | hparen | ⟨op, v, hop⟩
      · exact hnoWord (by rw [show t.kind = .dot from hdot]; rfl)
      · exact hnoWord (by rw [show t.kind = .rParen from hparen]; rfl)
      · obtain ⟨mid, hop, hv⟩ := spells_cons_append.mp hop
        obtain ⟨t', heq, hterm⟩ := spells_singleton.mp hop
        injection heq with ht hus
        subst ht hus
        obtain ⟨a, w, hcons, hvalue⟩ := value_terminals_cons v
        rw [hcons] at hv
        have hany : us.head?.any beginsValue = true := by
          rw [any_beginsValue h.of_cons, nextKind_of_spells hv, hvalue]
        cases hkind : t.kind.isWord with
        | false => exact hnoWord hkind
        | true =>
            have hsome := (comparatorOf?_eq_some_iff h.head).mpr hterm
            rw [isNegation, isComparatorWord, hkind, hsome, hany]
            rfl

theorem gives_negation {b : Bool} :
    Gives negation ctx ts b rest ↔
      (nextKind ctx ts = .not ∧ isNegation ts.tail = true) ∧ b = true ∧ rest = ts.tail ∨
        ¬(nextKind ctx ts = .not ∧ isNegation ts.tail = true) ∧ b = false ∧ rest = ts := by
  unfold negation
  rw [gives_remaining_bind, gives_peek_bind, gives_ite, gives_pass_pure, gives_pure]
  rfl

/-- Negation is read as the grammar has it. -/
theorem gives_negation_of_spells
    {negated : Bool} {m : Grammar.Name} {d : Grammar.Test} (h : Ready ctx ts)
    (hnot : Spells ts (if negated then [.fixed .not] else []) rest)
    {stop : List Token} (hspells : Spells rest (m.terminals ++ d.terminals) stop)
    (hclose : nextKind ctx stop = .rParen) :
    Gives negation ctx ts negated rest := by
  rw [gives_negation]
  cases negated with
  | true =>
      obtain ⟨hkind, rfl⟩ := (spells_fixed_iff h rfl).mp hnot
      exact Or.inl ⟨⟨hkind, isNegation_of_name h.tail hspells hclose⟩, rfl, rfl⟩
  | false =>
      obtain rfl := spells_nil.mp hnot
      refine Or.inr ⟨?_, rfl, rfl⟩
      rintro ⟨-, hneg⟩
      obtain ⟨t, us, rfl, -, hus⟩ := spells_cons.mp hspells
      rw [List.tail_cons, not_isNegation_of_tail h.of_cons hus hclose] at hneg
      cases hneg

/-! ## Clauses -/

theorem test_next_ne_dot
    {d : Grammar.Test} (hspells : Spells ts d.terminals rest)
    (hclose : nextKind ctx rest = .rParen) :
    nextKind ctx ts ≠ .dot := by
  cases d with
  | truthy =>
      obtain rfl := spells_nil.mp hspells
      rw [hclose]
      decide
  | compare op v =>
      rw [nextKind_of_spells hspells]
      cases op <;> decide

/-- A clause in parentheses. -/
theorem gives_clause {c : Clause} (h : Ready ctx ts) :
    Gives clause ctx ts c rest ↔
      ∃ d : Grammar.Clause, d.test.Fits ∧ d.meaning? = some c ∧
        Spells ts (Grammar.parenthesized d.terminals) rest := by
  unfold clause
  simp only [gives_bind, gives_expect, gives_pure, spells_parenthesized_iff h]
  constructor
  · rintro ⟨u, mid, ⟨hopen, rfl⟩, b, mid₁, hb, n, mid₂, hn, test, mid₃, htest, v, mid₄,
      ⟨hclose, rfl⟩, rfl, rfl⟩
    have hnot : Spells ts.tail (if b then [.fixed .not] else []) mid₁ := by
      rcases gives_negation.mp hb with ⟨⟨hkind, -⟩, rfl, rfl⟩ | ⟨-, rfl, rfl⟩
      · exact (spells_fixed_iff h.tail rfl).mpr ⟨hkind, rfl⟩
      · exact spells_nil.mpr rfl
    have hmid₁ := h.tail.of_spells hnot
    obtain ⟨m, htext, hm⟩ := dottedName_sound hmid₁ hn
    obtain ⟨d, hfits, hmeaning, hd⟩ :=
      (gives_attributeTest _ (hmid₁.of_spells hm) hclose).mp htest
    refine ⟨⟨b, m, d⟩, hfits, ?_, hopen, mid₃, ?_, hclose, rfl⟩
    · rw [Grammar.Clause.meaning?, hmeaning, htext]
      rfl
    · exact spells_append.mpr ⟨_, hnot, spells_append.mpr ⟨_, hm, hd⟩⟩
  · rintro ⟨⟨b, m, d⟩, hfits, hmeaning, hopen, mid, hspells, hclose, rfl⟩
    obtain ⟨test, htest, rfl⟩ := Option.map_eq_some_iff.mp hmeaning
    obtain ⟨mid₁, hnot, hspells⟩ := spells_append.mp hspells
    have hb := gives_negation_of_spells h.tail hnot hspells hclose
    have hmid₁ := h.tail.of_spells hnot
    obtain ⟨mid₂, hm, hd⟩ := spells_append.mp hspells
    obtain ⟨n, hn, htext⟩ :=
      dottedName_complete .attributeName hmid₁ hm (test_next_ne_dot hd hclose)
    have hgives := (gives_attributeTest n (hmid₁.of_spells hm) hclose).mpr
      ⟨d, hfits, htest, hd⟩
    exact ⟨(), _, ⟨hopen, rfl⟩, b, mid₁, hb, n, mid₂, hn, test, mid, hgives, (), _,
      ⟨hclose, rfl⟩, by rw [htext], rfl⟩

theorem spells_whereTerminals_iff {d : Grammar.Clause} (h : Ready ctx ts) :
    Spells ts d.whereTerminals rest ↔
      nextKind ctx ts = .dot ∧ nextKind ctx ts.tail = .where ∧
        Spells ts.tail.tail (Grammar.parenthesized d.terminals) rest := by
  unfold Grammar.Clause.whereTerminals
  rw [spells_fixed_cons_iff h rfl, spells_fixed_cons_iff h.tail rfl]

theorem clauses_sound
    {fuel : Nat} {cs : List Clause} (h : Ready ctx ts) (hcs : Gives (clauses fuel) ctx ts cs rest) :
    ∃ ds : List Grammar.Clause, (∀ d ∈ ds, d.test.Fits) ∧
      ds.mapM Grammar.Clause.meaning? = some cs ∧
        Spells ts (ds.flatMap Grammar.Clause.whereTerminals) rest := by
  induction fuel generalizing ts cs with
  | zero =>
      obtain ⟨rfl, rfl⟩ := gives_pure.mp hcs
      exact ⟨[], List.forall_mem_nil _, rfl, spells_nil.mpr rfl⟩
  | succ fuel ih =>
      unfold clauses at hcs
      rw [gives_peek_bind, gives_ite, gives_pass_bind, gives_pure] at hcs
      simp only [gives_bind, gives_expect, gives_pure] at hcs
      rcases hcs with ⟨hdot, u, mid, ⟨hwhere, rfl⟩, c, mid₁, hc, cs, mid₂, hcs, rfl, rfl⟩ |
        ⟨-, rfl, rfl⟩
      · obtain ⟨d, hfits, hmeaning, hclause⟩ := (gives_clause h.tail.tail).mp hc
        have hspells := (spells_whereTerminals_iff h).mpr ⟨hdot, hwhere, hclause⟩
        obtain ⟨ds, hall, hmap, hds⟩ := ih (h.of_spells hspells) hcs
        refine ⟨d :: ds, ?_, ?_, ?_⟩
        · exact List.forall_mem_cons.mpr ⟨hfits, hall⟩
        · exact mapM_cons_eq_some_iff.mpr ⟨c, cs, hmeaning, hmap, rfl⟩
        · rw [List.flatMap_cons]
          exact spells_append.mpr ⟨mid₁, hspells, hds⟩
      · exact ⟨[], List.forall_mem_nil _, rfl, spells_nil.mpr rfl⟩

/-- The clauses of a check are read as far as they go.  Each one takes a token,
so the fuel lasts. -/
theorem clauses_complete
    {fuel : Nat} {ds : List Grammar.Clause} {cs : List Clause} (h : Ready ctx ts)
    (hfuel : ts.length < fuel) (hfits : ∀ d ∈ ds, d.test.Fits)
    (hcs : ds.mapM Grammar.Clause.meaning? = some cs)
    (hspells : Spells ts (ds.flatMap Grammar.Clause.whereTerminals) rest)
    (hfollow : nextKind ctx rest ≠ .dot) :
    Gives (clauses fuel) ctx ts cs rest := by
  induction ds generalizing ts fuel cs with
  | nil =>
      obtain ⟨fuel, rfl⟩ := Nat.exists_eq_succ_of_ne_zero (Nat.ne_zero_of_lt hfuel)
      obtain rfl := spells_nil.mp hspells
      obtain rfl : cs = [] := by simpa using hcs.symm
      unfold clauses
      rw [gives_peek_bind, gives_ite]
      exact Or.inr ⟨hfollow, gives_pure.mpr ⟨rfl, rfl⟩⟩
  | cons d ds ih =>
      obtain ⟨fuel, rfl⟩ := Nat.exists_eq_succ_of_ne_zero (Nat.ne_zero_of_lt hfuel)
      obtain ⟨hfit, hall⟩ := List.forall_mem_cons.mp hfits
      obtain ⟨c, cs', hmeaning, hmap, rfl⟩ := mapM_cons_eq_some_iff.mp hcs
      rw [List.flatMap_cons] at hspells
      obtain ⟨mid, hspells, hds⟩ := spells_append.mp hspells
      have hlen : mid.length < fuel := by
        have := hspells.length_lt
        omega
      have hothers := ih (h.of_spells hspells) hlen hall hmap hds
      obtain ⟨hdot, hwhere, hclause⟩ := (spells_whereTerminals_iff h).mp hspells
      have hc := (gives_clause h.tail.tail).mpr ⟨d, hfit, hmeaning, hclause⟩
      unfold clauses
      rw [gives_peek_bind, gives_ite, gives_pass_bind]
      simp only [gives_bind, gives_expect, gives_pure]
      exact Or.inl ⟨hdot, (), _, ⟨hwhere, rfl⟩, c, mid, hc, cs', rest, hothers, rfl, rfl⟩

end TraceCheck.Reading
