import TraceCheck.Proofs.Grammar.Unambiguity
import TraceCheck.Proofs.Printing.Derivation

/-!
# Derivations of equal expressions

A rule that denotes an expression equal to a given one, number for number and
pattern for pattern, shows that the given one is well-formed.  The terminals of
the rule are then those of the derivation of the given expression, except for
the spelling of numbers.
-/

namespace TraceCheck

open TraceCheck.Reading

variable {l : Limits}

/-! ## Legible terminals -/

/-- A terminal that the lexer makes: words are not too long, and neither are
strings. -/
structure Terminal.IsLegible (l : Limits) (a : Terminal) : Prop where
  word : a.kind.isWord = true → ∃ cs, IsSegment l cs ∧ a = wordTerminal cs
  string : a.kind = .string → a.text.length ≤ l.maxStringLength

theorem Piece.isLegible
    {p : Piece} {a : Terminal} (hwell : p.WellFormed) (hclean : p.clean l = true)
    (ha : p.terminal? l = some a) :
    a.IsLegible l := by
  obtain ⟨lexeme, cs⟩ := p
  cases lexeme with
  | word =>
      have hshort : cs.length ≤ l.maxIdentifierLength := of_decide_eq_true hclean
      rw [terminal?_word hshort] at ha
      injection ha with ha
      subst ha
      have hword := isWord_wordTerminal cs
      refine ⟨fun _ => ⟨cs, ⟨hwell.1, hwell.2, hshort⟩, rfl⟩, fun hkind => ?_⟩
      rw [hkind] at hword
      cases hword
  | number =>
      injection ha with ha
      subst ha
      exact ⟨nofun, nofun⟩
  | string content =>
      have hshort : content.length ≤ l.maxStringLength := of_decide_eq_true hclean
      injection ha with ha
      subst ha
      refine ⟨nofun, fun _ => ?_⟩
      change (String.ofList (content.take l.maxStringLength)).length ≤ _
      rw [String.length_ofList, List.length_take]
      exact Nat.min_le_left _ _
  | symbol kind =>
      injection ha with ha
      subst ha
      refine ⟨fun hword => ?_, fun hkind => ?_⟩
      · have := hwell.2
        rw [show kind.isWord = true from hword] at this
        cases this
      · have := hwell.1
        rw [show kind = .string from hkind] at this
        cases this
  | blank => cases ha
  | comment => cases ha
  | openString => cases ha
  | stray c => cases ha

/-- The terminals of a text without errors are legible. -/
theorem isLegible_of_lexed
    {cs : List Char} {w : List Terminal} (h : lexed l cs = w.map some) :
    ∀ a ∈ w, a.IsLegible l := by
  obtain ⟨hclean, hw⟩ := flatMap_reading_eq_map_some_iff.mp h
  subst hw
  intro a ha
  obtain ⟨p, hp, hterminal⟩ := List.mem_filterMap.mp ha
  exact Piece.isLegible (wellFormed_of_mem_piecesFrom hp) (hclean p hp) hterminal

/-! ## Alike terminals -/

/-- Two terminals are the same, or both are numbers and the first one is spelled
as numbers are printed. -/
inductive Terminal.Alike : Terminal → Terminal → Prop
  | same (a : Terminal) (ha : a.kind ≠ .number) : Alike a a
  | whole (n : Nat) (spelling : String) : Alike ⟨.number, toString n⟩ ⟨.number, spelling⟩
  | double (x : Float) (spelling : String) :
      Alike ⟨.number, Decimal.positional x⟩ ⟨.number, spelling⟩

/-- Terminals are alike one by one. -/
def Alike (v w : List Terminal) : Prop :=
  List.Forall₂ Terminal.Alike v w

theorem alike_refl {w : List Terminal} (hw : ∀ a ∈ w, a.kind ≠ .number) : Alike w w :=
  List.forall₂_same.mpr fun a ha => .same a (hw a ha)

theorem Alike.append
    {v v' w w' : List Terminal} (h : Alike v w) (h' : Alike v' w') :
    Alike (v ++ v') (w ++ w') :=
  List.rel_append h h'

theorem Alike.cons_same
    {v w : List Terminal} (a : Terminal) (ha : a.kind ≠ .number) (h : Alike v w) :
    Alike (a :: v) (a :: w) :=
  List.Forall₂.cons (.same a ha) h

theorem Alike.parenthesized {v w : List Terminal} (h : Alike v w) :
    Alike (Grammar.parenthesized v) (Grammar.parenthesized w) :=
  .cons_same (.fixed .lParen) (by decide) (h.append (alike_refl (by simp [Terminal.fixed])))

/-! ## Names -/

theorem dot_not_mem {cs : List Char} (hcs : IsSegment l cs) : '.' ∉ cs := fun h =>
  absurd (hcs.continues '.' h) (by decide)

theorem exists_segments
    {ws : List Grammar.Word} (hws : ∀ w ∈ ws, w.terminal.IsLegible l) :
    ∃ css : List (List Char), (∀ cs ∈ css, IsSegment l cs) ∧ ws = css.map Grammar.Word.ofChars := by
  induction ws with
  | nil => exact ⟨[], List.forall_mem_nil _, rfl⟩
  | cons w ws ih =>
      obtain ⟨hw, hall⟩ := List.forall_mem_cons.mp hws
      obtain ⟨css, hcss, rfl⟩ := ih hall
      obtain ⟨cs, hcs, hterminal⟩ := hw.word w.isWord
      have hword : w = .ofChars cs := Grammar.Word.terminal_injective hterminal
      exact ⟨cs :: css, List.forall_mem_cons.mpr ⟨hcs, hcss⟩, by rw [hword, List.map_cons]⟩

/-- A name of legible words is the name that its text is. -/
theorem name_eq_ofText
    {m : Grammar.Name} (hm : ∀ a ∈ m.terminals, a.IsLegible l) :
    IsName l m.text ∧ m = .ofText m.text := by
  obtain ⟨first, others⟩ := m
  have hwords : ∀ w ∈ first :: others, w.terminal.IsLegible l := by
    obtain ⟨hfirst, hothers⟩ := List.forall_mem_cons.mp hm
    refine List.forall_mem_cons.mpr ⟨hfirst, fun w hw => hothers w.terminal ?_⟩
    exact List.mem_flatMap.mpr ⟨w, hw, by simp⟩
  obtain ⟨css, hcss, heq⟩ := exists_segments hwords
  obtain ⟨cs, css, rfl, rfl, rfl⟩ := List.map_eq_cons_iff.mp heq.symm
  have hsplit : segments (Grammar.Name.ofSegments (cs :: css)).text = cs :: css := by
    unfold segments
    rw [intercalate_segments]
    exact List.splitOn_intercalate '.' (fun ds hds => dot_not_mem (hcss ds hds))
      (List.cons_ne_nil _ _)
  refine ⟨?_, ?_⟩
  · change IsName l (Grammar.Name.ofSegments (cs :: css)).text
    unfold IsName
    rw [hsplit]
    exact hcss
  · change Grammar.Name.ofSegments (cs :: css) =
      .ofText (Grammar.Name.ofSegments (cs :: css)).text
    rw [Grammar.Name.ofText, hsplit]

theorem name_alike
    {m : Grammar.Name} {name : String} (hm : ∀ a ∈ m.terminals, a.IsLegible l)
    (htext : m.text = name) :
    IsName l name ∧ Alike (Grammar.Name.ofText name).terminals m.terminals := by
  subst htext
  obtain ⟨hname, heq⟩ := name_eq_ofText hm
  refine ⟨hname, ?_⟩
  rw [← heq]
  refine alike_refl (List.forall_mem_cons.mpr ⟨m.first.kind_ne_number, ?_⟩)
  intro a ha
  obtain ⟨w, -, ha⟩ := List.mem_flatMap.mp ha
  rcases List.mem_pair.mp ha with rfl | rfl
  · exact nofun
  · exact w.kind_ne_number

/-! ## Values -/

theorem scalar_alike
    {d : Grammar.Scalar} {x y : Literal} (hd : d.terminal.IsLegible l) (hx : d.literal? = some x)
    (hsame : (x == y) = true) :
    y.IsScalar l ∧ Terminal.Alike y.scalar.terminal d.terminal := by
  cases d with
  | string content =>
      injection hx with hx
      subst hx
      cases y with
      | string s =>
          obtain rfl : content = s := beq_iff_eq.mp hsame
          exact ⟨.string _ (hd.string rfl), Terminal.Alike.same _ nofun⟩
      | _ => cases hsame
  | number spelling =>
      obtain ⟨v, -, rfl⟩ := Option.map_eq_some_iff.mp hx
      cases y with
      | number v' => exact ⟨.number v', .double v' spelling⟩
      | _ => cases hsame
  | bool b =>
      injection hx with hx
      subst hx
      cases y with
      | bool b' =>
          obtain rfl : b = b' := beq_iff_eq.mp hsame
          exact ⟨.bool b, Terminal.Alike.same _ (by cases b <;> exact nofun)⟩
      | _ => cases hsame

theorem items_alike
    {ds : List Grammar.Scalar} {xs ys : List Literal}
    (hds : ∀ d ∈ ds, d.terminal.IsLegible l)
    (hxs : ds.mapM Grammar.Scalar.literal? = some xs) (hsame : sameLiterals xs ys = true) :
    (∀ y ∈ ys, y.IsScalar l) ∧
      Alike (Grammar.itemTerminals (ys.map Literal.scalar)) (Grammar.itemTerminals ds) := by
  have hclose : Alike [.fixed .rBracket] [.fixed .rBracket] :=
    alike_refl (by simp [Terminal.fixed])
  induction ds generalizing xs ys with
  | nil =>
      injection hxs with hxs
      subst hxs
      cases ys with
      | nil => exact ⟨List.forall_mem_nil _, hclose⟩
      | cons y ys => cases hsame
  | cons d ds ih =>
      obtain ⟨x, xs, hx, hliterals, rfl⟩ := mapM_cons_eq_some_iff.mp hxs
      obtain ⟨hd, hall⟩ := List.forall_mem_cons.mp hds
      cases ys with
      | nil => cases hsame
      | cons y ys =>
          obtain ⟨hfirst, hothers⟩ := (Bool.and_eq_true _ _).mp hsame
          obtain ⟨hy, halike⟩ := scalar_alike hd hx hfirst
          obtain ⟨hys, htail⟩ := ih hall hliterals hothers
          refine ⟨List.forall_mem_cons.mpr ⟨hy, hys⟩, ?_⟩
          have hhead : Alike [y.scalar.terminal] [d.terminal] := .cons halike .nil
          -- The comma behind a value depends on whether another one follows.
          cases ds with
          | nil =>
              injection hliterals with hliterals
              subst hliterals
              cases ys with
              | nil => exact hhead.append hclose
              | cons y' ys => cases hothers
          | cons d' ds =>
              cases ys with
              | nil =>
                  obtain ⟨x', xs', -, -, rfl⟩ := mapM_cons_eq_some_iff.mp hliterals
                  cases hothers
              | cons y' ys => exact hhead.append (htail.cons_same (.fixed .comma) (by decide))

theorem pattern_alike
    {content : String} {x y : Literal} (hlen : content.length ≤ l.maxStringLength)
    (hfits : ∃ program, Pattern.vet content = .ok program)
    (hx : (Pattern.ofText content).toOption.map Literal.pattern = some x)
    (hsame : (x == y) = true) :
    Comparator.matches.Takes l y ∧ Alike y.value.terminals [⟨.string, content⟩] := by
  obtain ⟨p, hp, rfl⟩ := Option.map_eq_some_iff.mp hx
  have hsource := (ofText_spec (ofText_of_toOption hp)).1
  cases y with
  | pattern q =>
      have hsources : p.source = q.source := beq_iff_eq.mp hsame
      obtain rfl : q.source = content := hsources.symm.trans hsource
      exact ⟨.pattern q hfits hlen, .cons (.same _ nofun) .nil⟩
  | _ => cases hsame

theorem value_alike
    {op : Comparator} {d : Grammar.Value} {x y : Literal}
    (hd : ∀ a ∈ d.terminals, a.IsLegible l) (hfits : d.Fits op) (hx : d.literal? op = some x)
    (hsame : (x == y) = true) :
    op.Takes l y ∧ Alike y.value.terminals d.terminals := by
  cases d with
  | scalar d =>
      have hlegible := hd _ List.mem_cons_self
      have hscalar (hx : d.literal? = some x) :
          y.IsScalar l ∧ Alike y.value.terminals [d.terminal] := by
        obtain ⟨hy, halike⟩ := scalar_alike hlegible hx hsame
        rw [hy.value_eq]
        exact ⟨hy, .cons halike .nil⟩
      cases d with
      | number spelling =>
          obtain ⟨hy, halike⟩ := hscalar hx
          exact ⟨.scalar op y hfits.1 hfits.2 hy, halike⟩
      | bool b =>
          obtain ⟨hy, halike⟩ := hscalar hx
          exact ⟨.scalar op y hfits.1 hfits.2 hy, halike⟩
      | string content =>
          by_cases hmatches : op = .matches
          · subst hmatches
            exact pattern_alike (hlegible.string rfl) (hfits rfl) hx hsame
          · rw [value_literal?_string hmatches] at hx
            obtain ⟨hy, halike⟩ := hscalar hx
            refine ⟨?_, halike⟩
            by_cases hcontains : op = .contains
            · subst hcontains
              injection hx with hx
              subst hx
              cases hy with
              | string s hlen => exact .search s hlen
              | _ => cases hsame
            · exact .scalar op y hmatches hcontains hy
  | list ds =>
      obtain rfl : op = .in := hfits
      obtain ⟨xs, hxs, rfl⟩ := Option.map_eq_some_iff.mp hx
      have hitems : ∀ d ∈ ds, d.terminal.IsLegible l := fun d hmem =>
        hd _ (List.mem_cons_of_mem _ (mem_itemTerminals hmem))
      cases y with
      | list ys =>
          obtain ⟨hys, halike⟩ := items_alike hitems hxs hsame
          exact ⟨.list ys hys, halike.cons_same (.fixed .lBracket) (by decide)⟩
      | _ => cases hsame

/-! ## Clauses and checks -/

theorem comparator_kind_ne_number (op : Comparator) : op.terminal.kind ≠ .number := by
  cases op <;> decide

theorem test_alike
    {d : Grammar.Test} {s t : Test} (hd : ∀ a ∈ d.terminals, a.IsLegible l) (hfits : d.Fits)
    (hs : d.meaning? = some s) (hsame : (s == t) = true) :
    t.IsWellFormed l ∧ Alike t.derivation.terminals d.terminals := by
  cases d with
  | truthy =>
      injection hs with hs
      subst hs
      cases t with
      | truthy => exact ⟨trivial, .nil⟩
      | compare op y => cases hsame
  | compare op v =>
      obtain ⟨x, hx, rfl⟩ := Option.map_eq_some_iff.mp hs
      cases t with
      | truthy => cases hsame
      | compare op' y =>
          obtain ⟨hop, hvalue⟩ := (Bool.and_eq_true _ _).mp hsame
          obtain rfl : op = op' := beq_iff_eq.mp hop
          obtain ⟨hy, halike⟩ :=
            value_alike (fun a ha => hd a (List.mem_cons_of_mem _ ha)) hfits hx hvalue
          exact ⟨hy, halike.cons_same op.terminal (comparator_kind_ne_number op)⟩

theorem clause_alike
    {d : Grammar.Clause} {b c : Clause} (hd : ∀ a ∈ d.terminals, a.IsLegible l)
    (hfits : d.test.Fits) (hb : d.meaning? = some b) (hsame : (b == c) = true) :
    c.IsWellFormed l ∧ Alike c.derivation.terminals d.terminals := by
  obtain ⟨negated, m, test⟩ := d
  obtain ⟨name, t, negated'⟩ := c
  obtain ⟨s, hs, rfl⟩ := Option.map_eq_some_iff.mp hb
  obtain ⟨hname, hsame⟩ := (Bool.and_eq_true _ _).mp hsame
  obtain ⟨htest, hnegated⟩ := (Bool.and_eq_true _ _).mp hsame
  obtain rfl : negated = negated' := beq_iff_eq.mp hnegated
  obtain ⟨-, hlegible⟩ := List.forall_mem_append.mp hd
  obtain ⟨hm, htail⟩ := List.forall_mem_append.mp hlegible
  obtain ⟨hwellName, hnameAlike⟩ := name_alike hm (beq_iff_eq.mp hname)
  obtain ⟨hwellTest, htestAlike⟩ := test_alike htail hfits hs htest
  refine ⟨⟨hwellName, hwellTest⟩, Alike.append ?_ (hnameAlike.append htestAlike)⟩
  cases negated with
  | false => exact alike_refl (List.forall_mem_nil _)
  | true => exact alike_refl (by simp [Terminal.fixed])

theorem clauses_alike
    {ds : List Grammar.Clause} {bs cs : List Clause}
    (hds : ∀ a ∈ ds.flatMap Grammar.Clause.whereTerminals, a.IsLegible l)
    (hfits : ∀ d ∈ ds, d.test.Fits) (hbs : ds.mapM Grammar.Clause.meaning? = some bs)
    (hsame : (bs == cs) = true) :
    (∀ c ∈ cs, c.IsWellFormed l) ∧
      Alike ((cs.map Clause.derivation).flatMap Grammar.Clause.whereTerminals)
        (ds.flatMap Grammar.Clause.whereTerminals) := by
  induction ds generalizing bs cs with
  | nil =>
      injection hbs with hbs
      subst hbs
      cases cs with
      | nil => exact ⟨List.forall_mem_nil _, .nil⟩
      | cons c cs => cases hsame
  | cons d ds ih =>
      obtain ⟨b, bs, hb, hmeanings, rfl⟩ := mapM_cons_eq_some_iff.mp hbs
      obtain ⟨hfit, hall⟩ := List.forall_mem_cons.mp hfits
      rw [List.flatMap_cons] at hds
      obtain ⟨hd, hothers⟩ := List.forall_mem_append.mp hds
      cases cs with
      | nil => cases hsame
      | cons c cs =>
          rw [List.cons_beq_cons] at hsame
          obtain ⟨hfirst, htail⟩ := (Bool.and_eq_true _ _).mp hsame
          have hlegible : ∀ a ∈ d.terminals, a.IsLegible l := fun a ha =>
            hd a (by simp [Grammar.Clause.whereTerminals, Grammar.parenthesized, ha])
          obtain ⟨hc, halike⟩ := clause_alike hlegible hfit hb hfirst
          obtain ⟨hcs, halikes⟩ := ih hothers hall hmeanings htail
          refine ⟨List.forall_mem_cons.mpr ⟨hc, hcs⟩, ?_⟩
          have hwhere : Alike c.derivation.whereTerminals d.whereTerminals :=
            (halike.parenthesized.cons_same (.fixed .where) (by decide)).cons_same (.fixed .dot) (by decide)
          exact hwhere.append halikes

theorem count_alike
    {m : Grammar.Name} {name : String}
    (hm : ∀ a ∈ Grammar.countTerminals m, a.IsLegible l) (htext : m.text = name) :
    IsName l name ∧
      Alike (Grammar.countTerminals (.ofText name)) (Grammar.countTerminals m) := by
  have hlegible : ∀ a ∈ m.terminals, a.IsLegible l := fun a ha =>
    hm a (by simp [Grammar.countTerminals, Grammar.parenthesized, ha])
  obtain ⟨hname, halike⟩ := name_alike hlegible htext
  have hcount := halike.parenthesized.cons_same (.fixed .count) (by decide)
  exact ⟨hname, (hcount.cons_same (.fixed .dot) (by decide)).cons_same (.fixed .trace) (by decide)⟩

theorem operand_alike
    {d : Grammar.Operand} {o : CountOperand} (hd : ∀ a ∈ d.terminals, a.IsLegible l)
    (ho : d.meaning? = some o) :
    o.IsWellFormed l ∧ Alike o.derivation.terminals d.terminals := by
  cases d with
  | number spelling =>
      obtain ⟨n, hn, rfl⟩ := Option.map_eq_some_iff.mp ho
      exact ⟨Decimal.lt_of_readNat? hn, .cons (.whole n spelling) .nil⟩
  | count m =>
      injection ho with ho
      subst ho
      exact count_alike hd rfl

theorem check_alike
    {d : Grammar.Check} {a e : Expr} (hd : ∀ b ∈ d.terminals, b.IsLegible l) (hfits : d.Fits)
    (ha : d.expr? = some a) (hsame : (a == e) = true) :
    e.IsTerm l ∧ e.nots = 0 ∧ Alike e.term.terminals d.terminals := by
  cases d with
  | has m ds =>
      obtain ⟨bs, hbs, rfl⟩ := Option.map_eq_some_iff.mp ha
      cases e with
      | has name cs =>
          obtain ⟨hname, hclauses⟩ := (Bool.and_eq_true _ _).mp hsame
          have hm : ∀ b ∈ m.terminals, b.IsLegible l := fun b hb =>
            hd b (by simp [Grammar.Check.terminals, Grammar.parenthesized, hb])
          have hds : ∀ b ∈ ds.flatMap Grammar.Clause.whereTerminals, b.IsLegible l := by
            intro b hb
            refine hd b ?_
            simp only [Grammar.Check.terminals, List.mem_cons, List.mem_append]
            exact .inr (.inr (.inr (.inr hb)))
          obtain ⟨hwellName, hnameAlike⟩ := name_alike hm (beq_iff_eq.mp hname)
          obtain ⟨hwellClauses, hclausesAlike⟩ := clauses_alike hds hfits hbs hclauses
          have hargument := (hnameAlike.parenthesized.append hclausesAlike).cons_same
            (.fixed .has) (by decide)
          exact ⟨.has name cs hwellName hwellClauses, rfl,
            (hargument.cons_same (.fixed .dot) (by decide)).cons_same (.fixed .trace) (by decide)⟩
      | _ => cases hsame
  | count m op d =>
      obtain ⟨o, ho, rfl⟩ := Option.map_eq_some_iff.mp ha
      obtain ⟨hrelational, -⟩ := hfits
      cases e with
      | count name op' o' =>
          obtain ⟨hname, hsides⟩ := (Bool.and_eq_true _ _).mp hsame
          obtain ⟨hop, hoperand⟩ := (Bool.and_eq_true _ _).mp hsides
          obtain rfl : op = op' := beq_iff_eq.mp hop
          obtain rfl : o = o' := beq_iff_eq.mp hoperand
          obtain ⟨hcount, htail⟩ := List.forall_mem_append.mp hd
          obtain ⟨-, hlegible⟩ := List.forall_mem_cons.mp htail
          obtain ⟨hwellName, hcountAlike⟩ := count_alike hcount (beq_iff_eq.mp hname)
          obtain ⟨hwellOperand, hoperandAlike⟩ := operand_alike hlegible ho
          exact ⟨.count name op o hwellName hrelational hwellOperand, rfl, hcountAlike.append
            (hoperandAlike.cons_same op.terminal (comparator_kind_ne_number op))⟩
      | _ => cases hsame

/-! ## Terms and chains -/

theorem term_alike
    {d : Grammar.Term} {a e : Expr} (hd : ∀ b ∈ d.terminals, b.IsLegible l) (hfits : d.Fits)
    (ha : d.expr? = some a) (hsame : (a == e) = true) :
    e.IsTerm l ∧ e.nots = d.nots ∧ Alike e.term.terminals d.terminals := by
  induction d generalizing a e with
  | check d => exact check_alike hd hfits ha hsame
  | not d ih =>
      obtain ⟨b, hb, rfl⟩ := Option.map_eq_some_iff.mp ha
      obtain ⟨-, hlegible⟩ := List.forall_mem_cons.mp hd
      cases e with
      | not e =>
          obtain ⟨hterm, hnots, halike⟩ := ih hlegible hfits hb hsame
          exact ⟨.not e hterm, congrArg (· + 1) hnots, halike.cons_same (.fixed .not) (by decide)⟩
      | _ => cases hsame

/-- The terms of a rule that denotes an expression equal to a given one are
those of the given one, with as many `not` each. -/
theorem chain_alike
    {first : Grammar.Term} {links : List (LogicalOp × Grammar.Term)} {a e : Expr}
    (hd : ∀ b ∈ (Grammar.Chain.mk first links).terminals, b.IsLegible l)
    (hfits : ∀ t ∈ (Grammar.Chain.mk first links).terms, t.Fits)
    (ha : (Grammar.Chain.mk first links).expr? = some a) (hsame : (a == e) = true) :
    (∀ t ∈ e.terms, t.IsTerm l) ∧
      e.terms.map Expr.nots = (Grammar.Chain.mk first links).terms.map Grammar.Term.nots ∧
        Alike e.derivation.terminals (Grammar.Chain.mk first links).terminals := by
  induction links using List.reverseRecOn generalizing a e with
  | nil =>
      rw [Grammar.Chain.terminals_single] at hd ⊢
      obtain ⟨hterm, hnots, halike⟩ := term_alike hd (List.forall_mem_singleton.mp hfits) ha hsame
      rw [hterm.terms_eq, hterm.derivation_eq, Grammar.Chain.terminals_single]
      exact ⟨List.forall_mem_singleton.mpr hterm, congrArg (fun n => [n]) hnots, halike⟩
  | append_singleton links link ih =>
      obtain ⟨op, t⟩ := link
      rw [Grammar.Chain.expr?_append] at ha
      rw [Grammar.Chain.terminals_append] at hd ⊢
      rw [Grammar.Chain.terms_append] at hfits ⊢
      obtain ⟨b, hb, hjoin⟩ := Option.bind_eq_some_iff.mp ha
      obtain ⟨c, hc, heq⟩ := Option.bind_eq_some_iff.mp hjoin
      injection heq with heq
      subst heq
      obtain ⟨hlegible, hlast⟩ := List.forall_mem_append.mp hd
      obtain ⟨hfit, hlastFit⟩ := List.forall_mem_append.mp hfits
      cases e with
      | binary op' left right =>
          obtain ⟨hop, hsides⟩ := (Bool.and_eq_true _ _).mp hsame
          obtain ⟨hleft, hright⟩ := (Bool.and_eq_true _ _).mp hsides
          obtain rfl : op = op' := beq_iff_eq.mp hop
          obtain ⟨hterms, hnots, halike⟩ := ih hlegible hfit hb hleft
          obtain ⟨hterm, hnot, htermAlike⟩ := term_alike (List.forall_mem_cons.mp hlast).2
            (List.forall_mem_singleton.mp hlastFit) hc hright
          rw [Expr.terms, Expr.derivation, Grammar.Chain.terminals_append, List.map_append,
            List.map_append, hnots]
          refine ⟨List.forall_mem_append.mpr ⟨hterms, List.forall_mem_singleton.mpr hterm⟩,
            congrArg (_ ++ [·]) hnot, halike.append ?_⟩
          exact htermAlike.cons_same op.terminal (by cases op <;> decide)
      | _ => cases hsame

/-- What denotes an expression equal to a given one shows that the given one is
well-formed, and its terminals are those of the derivation of the given one up to
the spelling of numbers. -/
theorem isWellFormed_of_denotes
    {d : Grammar.Chain} {a e : Expr} (hd : ∀ b ∈ d.terminals, b.IsLegible l)
    (hfits : d.Fits l.maxRecursionDepth) (ha : d.expr? = some a) (hsame : (a == e) = true) :
    e.IsWellFormed l ∧ Alike e.derivation.terminals d.terminals := by
  obtain ⟨hterms, hnots, halike⟩ := chain_alike hd hfits.1 ha hsame
  refine ⟨⟨hterms, fun i t ht => ?_⟩, halike⟩
  have hmap : (e.terms.map Expr.nots)[i]? = some t.nots := by
    rw [List.getElem?_map, ht]
    rfl
  rw [hnots, List.getElem?_map] at hmap
  obtain ⟨s, hs, heq⟩ := Option.map_eq_some_iff.mp hmap
  rw [← heq]
  exact hfits.2 i s hs

end TraceCheck
