import TraceCheck.Proofs.Decimal.Unsigned
import TraceCheck.Proofs.Printing.Overflow

/-!
# Canonical texts of valid rules

The expression of a valid rule is well-formed, so its text is read as an equal
expression unless a number stands in the way.  The numbers of a rule are plain or
infinite: a numeral that exceeds the range of doubles is accepted, and the word
that is printed for it is no number.
-/

namespace TraceCheck

open TraceCheck.Reading

variable {l : Limits}

/-! ## Numbers of valid rules -/

theorem scalar_isUnsigned
    {d : Grammar.Scalar} {x : Literal} (hd : WellSpelled [d.terminal])
    (hx : d.literal? = some x) :
    ∀ y ∈ x.numbers, Decimal.IsUnsigned y := by
  cases d with
  | string content =>
      injection hx with hx
      subst hx
      exact List.forall_mem_nil _
  | number spelling =>
      obtain ⟨v, hv, rfl⟩ := Option.map_eq_some_iff.mp hx
      have hnumeral : Decimal.Numeral spelling.toList := hd _ List.mem_cons_self rfl
      exact List.forall_mem_singleton.mpr (hnumeral.isUnsigned hv)
  | bool b =>
      injection hx with hx
      subst hx
      exact List.forall_mem_nil _

theorem items_isUnsigned
    {ds : List Grammar.Scalar} {xs : List Literal} (hds : ∀ d ∈ ds, WellSpelled [d.terminal])
    (hxs : ds.mapM Grammar.Scalar.literal? = some xs) :
    ∀ y ∈ literalNumbers xs, Decimal.IsUnsigned y := by
  induction ds generalizing xs with
  | nil =>
      injection hxs with hxs
      subst hxs
      exact List.forall_mem_nil _
  | cons d ds ih =>
      obtain ⟨x, xs, hx, hliterals, rfl⟩ := mapM_cons_eq_some_iff.mp hxs
      obtain ⟨hd, hall⟩ := List.forall_mem_cons.mp hds
      exact List.forall_mem_append.mpr ⟨scalar_isUnsigned hd hx, ih hall hliterals⟩

theorem value_isUnsigned
    {op : Comparator} {d : Grammar.Value} {x : Literal} (hd : WellSpelled d.terminals)
    (hx : d.literal? op = some x) :
    ∀ y ∈ x.numbers, Decimal.IsUnsigned y := by
  cases d with
  | scalar d =>
      cases d with
      | string content =>
          by_cases hmatches : op = .matches
          · subst hmatches
            obtain ⟨p, -, rfl⟩ := Option.map_eq_some_iff.mp hx
            exact List.forall_mem_nil _
          · rw [value_literal?_string hmatches] at hx
            exact scalar_isUnsigned hd hx
      | number spelling => exact scalar_isUnsigned hd hx
      | bool b => exact scalar_isUnsigned hd hx
  | list ds =>
      obtain ⟨xs, hxs, rfl⟩ := Option.map_eq_some_iff.mp hx
      refine items_isUnsigned (fun d hmem => ?_) hxs
      intro a ha
      obtain rfl : a = d.terminal := List.mem_singleton.mp ha
      exact hd _ (List.mem_cons_of_mem _ (mem_itemTerminals hmem))

theorem clause_isUnsigned
    {d : Grammar.Clause} {c : Clause} (hd : WellSpelled d.terminals)
    (hc : d.meaning? = some c) :
    ∀ y ∈ c.test.numbers, Decimal.IsUnsigned y := by
  obtain ⟨negated, m, test⟩ := d
  obtain ⟨t, ht, rfl⟩ := Option.map_eq_some_iff.mp hc
  have htest := (wellSpelled_append_iff.mp (wellSpelled_append_iff.mp hd).2).2
  cases test with
  | truthy =>
      injection ht with ht
      subst ht
      exact List.forall_mem_nil _
  | compare op v =>
      obtain ⟨x, hx, rfl⟩ := Option.map_eq_some_iff.mp ht
      exact value_isUnsigned (wellSpelled_cons_iff.mp htest).2 hx

theorem clauses_isUnsigned
    {ds : List Grammar.Clause} {cs : List Clause}
    (hds : WellSpelled (ds.flatMap Grammar.Clause.whereTerminals))
    (hcs : ds.mapM Grammar.Clause.meaning? = some cs) :
    ∀ y ∈ cs.flatMap (·.test.numbers), Decimal.IsUnsigned y := by
  induction ds generalizing cs with
  | nil =>
      injection hcs with hcs
      subst hcs
      exact List.forall_mem_nil _
  | cons d ds ih =>
      obtain ⟨c, cs, hc, hmeanings, rfl⟩ := mapM_cons_eq_some_iff.mp hcs
      rw [List.flatMap_cons] at hds
      obtain ⟨hd, hothers⟩ := wellSpelled_append_iff.mp hds
      unfold Grammar.Clause.whereTerminals at hd
      rw [wellSpelled_fixed_cons .dot (by decide), wellSpelled_fixed_cons .where (by decide),
        wellSpelled_parenthesized] at hd
      rw [List.flatMap_cons]
      exact List.forall_mem_append.mpr ⟨clause_isUnsigned hd hc, ih hothers hmeanings⟩

theorem term_isUnsigned
    {d : Grammar.Term} {e : Expr} (hd : WellSpelled d.terminals) (he : d.expr? = some e) :
    ∀ y ∈ e.numbers, Decimal.IsUnsigned y := by
  induction d generalizing e with
  | check c =>
      cases c with
      | has m ds =>
          obtain ⟨cs, hcs, rfl⟩ := Option.map_eq_some_iff.mp he
          rw [Grammar.Term.terminals, Grammar.Check.terminals,
            wellSpelled_fixed_cons .trace (by decide), wellSpelled_fixed_cons .dot (by decide),
            wellSpelled_fixed_cons .has (by decide), wellSpelled_append_iff] at hd
          exact clauses_isUnsigned hd.2 hcs
      | count m op d =>
          obtain ⟨o, -, rfl⟩ := Option.map_eq_some_iff.mp he
          exact List.forall_mem_nil _
  | not d ih =>
      obtain ⟨a, ha, rfl⟩ := Option.map_eq_some_iff.mp he
      have hinner := ih (wellSpelled_cons_iff.mp hd).2 ha
      exact hinner

/-- The numbers that a derivation denotes are plain or infinite. -/
theorem chain_isUnsigned
    {first : Grammar.Term} {links : List (LogicalOp × Grammar.Term)} {e : Expr}
    (hd : WellSpelled (Grammar.Chain.mk first links).terminals)
    (he : (Grammar.Chain.mk first links).expr? = some e) :
    ∀ y ∈ e.numbers, Decimal.IsUnsigned y := by
  induction links using List.reverseRecOn generalizing e with
  | nil =>
      rw [Grammar.Chain.terminals_single] at hd
      exact term_isUnsigned hd he
  | append_singleton links link ih =>
      obtain ⟨op, t⟩ := link
      rw [Grammar.Chain.expr?_append] at he
      rw [Grammar.Chain.terminals_append] at hd
      obtain ⟨left, hleft, hjoin⟩ := Option.bind_eq_some_iff.mp he
      obtain ⟨right, hright, heq⟩ := Option.bind_eq_some_iff.mp hjoin
      injection heq with heq
      subst heq
      obtain ⟨hlinks, hlast⟩ := wellSpelled_append_iff.mp hd
      exact List.forall_mem_append.mpr
        ⟨ih hlinks hleft, term_isUnsigned (wellSpelled_cons_iff.mp hlast).2 hright⟩

/-! ## Lexing under other limits -/

/-- A text that is lexed without errors is lexed alike under limits with room for
its words. -/
theorem lexed_of_words_short
    {l l' : Limits} {cs : List Char} {w : List Terminal}
    (h : lexed l cs = w.map some)
    (hw : ∀ a ∈ w, a.kind.isWord = true → a.text.length ≤ l'.maxIdentifierLength)
    (hstring : l'.maxStringLength = l.maxStringLength) :
    lexed l' cs = w.map some := by
  obtain ⟨hclean, rfl⟩ := flatMap_reading_eq_map_some_iff.mp h
  have hpiece : ∀ p ∈ pieces cs, p.clean l' = true ∧ p.terminal? l' = p.terminal? l := by
    intro p hp
    have hcleanp := hclean p hp
    obtain ⟨lexeme, chars⟩ := p
    cases lexeme with
    | word =>
        have hshort : chars.length ≤ l.maxIdentifierLength := of_decide_eq_true hcleanp
        have hterminal := terminal?_word hshort
        have hmem : wordTerminal chars ∈ (pieces cs).filterMap (·.terminal? l) :=
          List.mem_filterMap.mpr ⟨_, hp, hterminal⟩
        have hshort' : chars.length ≤ l'.maxIdentifierLength := by
          have hlength := hw _ hmem (isWord_wordTerminal chars)
          rwa [wordTerminal, String.length_ofList] at hlength
        exact ⟨decide_eq_true hshort', by rw [hterminal, terminal?_word hshort']⟩
    | string content =>
        refine ⟨?_, ?_⟩
        · unfold Piece.clean at hcleanp ⊢
          rw [hstring]
          exact hcleanp
        · unfold Piece.terminal? Located.token?
          rw [hstring]
    | _ => exact ⟨hcleanp, rfl⟩
  refine flatMap_reading_eq_map_some_iff.mpr ⟨fun p hp => (hpiece p hp).1, ?_⟩
  exact List.filterMap_congr fun p hp => (hpiece p hp).2

/-- The same limits with room for every word of the syntax. -/
def Limits.widened (l : Limits) : Limits :=
  { l with maxIdentifierLength := max 8 l.maxIdentifierLength }

theorem Terminal.IsLegible.word_short {a : Terminal} (ha : a.IsLegible l) :
    a.kind.isWord = true → a.text.length ≤ l.maxIdentifierLength := by
  intro hword
  obtain ⟨cs, hcs, rfl⟩ := ha.word hword
  rw [wordTerminal, String.length_ofList]
  exact hcs.short

theorem Terminal.IsLegible.widened {a : Terminal} (ha : a.IsLegible l) :
    a.IsLegible l.widened where
  word hword := by
    obtain ⟨cs, hcs, heq⟩ := ha.word hword
    exact ⟨cs, ⟨hcs.begins, hcs.continues, hcs.short.trans (le_max_right _ _)⟩, heq⟩
  string := ha.string

/-- Words of terminals that are alike are equally long. -/
theorem Alike.words_short
    {v w : List Terminal} {n : Nat} (h : Alike v w)
    (hw : ∀ a ∈ w, a.kind.isWord = true → a.text.length ≤ n) :
    ∀ a ∈ v, a.kind.isWord = true → a.text.length ≤ n := by
  induction h with
  | nil => exact List.forall_mem_nil _
  | cons hfirst _ ih =>
      obtain ⟨hhead, htail⟩ := List.forall_mem_cons.mp hw
      refine List.forall_mem_cons.mpr ⟨?_, ih htail⟩
      cases hfirst with
      | same a ha => exact hhead
      | whole n spelling => exact nofun
      | double x spelling => exact nofun

/-! ## Expressions without NaN equal themselves -/

mutual

theorem Literal.beq_self
    (x : Literal) (hx : ∀ y ∈ x.numbers, y.isNaN = false) : (x == x) = true := by
  cases x with
  | string s => exact beq_self_eq_true s
  | number y => exact Decimal.beq_self (hx y List.mem_cons_self)
  | bool b => exact beq_self_eq_true b
  | list items => exact sameLiterals_self items hx
  | pattern p => exact beq_self_eq_true p.source

theorem sameLiterals_self
    (xs : List Literal) (hxs : ∀ y ∈ literalNumbers xs, y.isNaN = false) :
    sameLiterals xs xs = true := by
  cases xs with
  | nil => rfl
  | cons x xs =>
      obtain ⟨hx, hothers⟩ := List.forall_mem_append.mp hxs
      exact (Bool.and_eq_true _ _).mpr ⟨Literal.beq_self x hx, sameLiterals_self xs hothers⟩

end

theorem Clause.beq_self
    (c : Clause) (hc : ∀ y ∈ c.test.numbers, y.isNaN = false) : (c == c) = true := by
  obtain ⟨name, test, negated⟩ := c
  have htest : (test == test) = true := by
    cases test with
    | truthy => rfl
    | compare op x =>
        exact (Bool.and_eq_true _ _).mpr ⟨beq_self_eq_true op, Literal.beq_self x hc⟩
  change (name == name && (test == test && negated == negated)) = true
  rw [htest, beq_self_eq_true, beq_self_eq_true]
  rfl

theorem clauses_beq_self
    (cs : List Clause) (hcs : ∀ y ∈ cs.flatMap (·.test.numbers), y.isNaN = false) :
    (cs == cs) = true := by
  induction cs with
  | nil => rfl
  | cons c cs ih =>
      rw [List.flatMap_cons] at hcs
      obtain ⟨hc, hothers⟩ := List.forall_mem_append.mp hcs
      rw [List.cons_beq_cons, Clause.beq_self c hc, ih hothers]
      rfl

theorem Expr.beq_self
    (e : Expr) (he : ∀ y ∈ e.numbers, y.isNaN = false) : (e == e) = true := by
  induction e with
  | binary op left right ihl ihr =>
      obtain ⟨hleft, hright⟩ := List.forall_mem_append.mp he
      change (op == op && (left == left && right == right)) = true
      rw [ihl hleft, ihr hright, beq_self_eq_true]
      rfl
  | not e ih => exact ih he
  | has name clauses =>
      change (name == name && clauses == clauses) = true
      rw [clauses_beq_self clauses he, beq_self_eq_true]
      rfl
  | count name op operand =>
      change (name == name && (op == op && operand == operand)) = true
      rw [beq_self_eq_true, beq_self_eq_true, beq_self_eq_true]
      rfl

/-! ## Checking again -/

/-- A valid rule gives an expression that is well-formed under the widened limits,
has numbers without a sign, and is derived from words that the limits allow. -/
theorem isWellFormed_of_isValid
    {source : String} {e : Expr} (hl : l.expired = false)
    (hvalid : (check l source).isValid = true) (hast : (check l source).ast = some e) :
    e.IsWellFormed l.widened ∧ (∀ x ∈ e.numbers, Decimal.IsUnsigned x) ∧
      ∀ a ∈ e.derivation.terminals,
        a.kind.isWord = true → a.text.length ≤ l.maxIdentifierLength := by
  have herrors := errors_eq_nil_of_isValid hvalid
  have hsize := ((tokenize_errors_eq_nil_iff hl).mp herrors).1
  obtain ⟨⟨first, links⟩, a, hd, hspelled, hfits, ha, hast'⟩ := exists_derives_of_isValid hl hvalid
  obtain rfl : e = a := Option.some.inj (hast.symm.trans hast')
  have hlexed := (tokenize_terminals_iff hl hsize).mp ⟨herrors, hd⟩
  have hlegible := isLegible_of_lexed hlexed
  have hunsigned := chain_isUnsigned hspelled ha
  have hsame : (e == e) = true := e.beq_self fun x hx => (hunsigned x hx).isNaN_eq_false
  obtain ⟨hwell, halike⟩ :=
    isWellFormed_of_denotes (fun b hb => (hlegible b hb).widened) hfits ha hsame
  exact ⟨hwell, hunsigned, halike.words_short fun b hb => (hlegible b hb).word_short⟩

/-- Checking the text of the expression of a valid rule, if the text is not too
long, gives an equal expression again exactly when all numbers of the rule are
finite. -/
theorem check_text_again_iff_isFinite
    (l : Limits) (source : String) (e : Expr) (hl : l.expired = false)
    (hvalid : (check l source).isValid = true) (hast : (check l source).ast = some e)
    (hsize : e.text.utf8ByteSize ≤ l.maxTotalLength) :
    ((check l e.text).isValid = true ∧
        ∃ a, (check l e.text).ast = some a ∧ (a == e) = true) ↔
      ∀ x ∈ e.numbers, x.isFinite = true := by
  obtain ⟨hwell, hunsigned, hshort⟩ := isWellFormed_of_isValid hl hvalid hast
  have hroom : 8 ≤ l.widened.maxIdentifierLength := le_max_left _ _
  constructor
  · rintro ⟨hagain, a, hasta, hsame⟩
    have herrors := errors_eq_nil_of_isValid hagain
    obtain ⟨d, b, hd, -, hfits, hb, hastb⟩ := exists_derives_of_isValid hl hagain
    obtain rfl : b = a := Option.some.inj (hastb.symm.trans hasta)
    have hlexed := (tokenize_terminals_iff hl hsize).mp ⟨herrors, hd⟩
    have hlegible := isLegible_of_lexed hlexed
    have hwide : lexed l.widened e.text.toList = d.terminals.map some :=
      lexed_of_words_short hlexed
        (fun c hc hword => ((hlegible c hc).word_short hword).trans (le_max_right _ _)) rfl
    obtain ⟨-, halike⟩ :=
      isWellFormed_of_denotes (fun c hc => (hlegible c hc).widened) hfits hb hsame
    have hrelexed := (Expr.lexes hwell.terms hroom).lexed_eq.symm.trans hwide
    have hspelled := wellSpelled_of_relexed_eq hroom halike hrelexed
    intro x hx
    exact ((Expr.wellSpelled_iff hwell.terms).mp hspelled x hx).isFinite
  · intro hfinite
    have hplain : ∀ x ∈ e.numbers, Decimal.IsPlain x := fun x hx =>
      (hunsigned x hx).isPlain_iff.mpr (hfinite x hx)
    have he : e.IsGrammatical l.widened := ⟨hwell, hplain⟩
    have hspelled := (Expr.wellSpelled_iff hwell.terms).mpr hplain
    have hwide := (Expr.lexes hwell.terms hroom).lexed_eq.trans (relexed_eq_map_some hspelled)
    have hlexed : lexed l e.text.toList = e.derivation.terminals.map some :=
      lexed_of_words_short hwide hshort rfl
    obtain ⟨herrors, hd⟩ := (tokenize_terminals_iff hl hsize).mpr hlexed
    obtain ⟨a, ha, hsame⟩ := he.exists_expr
    obtain ⟨b, hb, hagain, hastb⟩ := check_of_derives hl herrors hd he.fits
    obtain rfl : b = a := Option.some.inj (hb.symm.trans ha)
    exact ⟨hagain, b, hastb, hsame⟩

/-- A rule with a fraction, an escaped quote and a doubled negation is read again
from its text. -/
theorem check_text_again_fraction :
    let source := "not not trace.has(a.b).where(x in [\"q\\\"\\d\", 007.50, true])"
    ∃ e, (check {} source).ast = some e ∧ (check {} source).isValid = true ∧
      e.text.utf8ByteSize ≤ ({} : Limits).maxTotalLength ∧ (∀ x ∈ e.numbers, x.isFinite = true) ∧
      (check {} e.text).isValid = true := by
  intro source
  have hvalid : (check {} source).isValid = true := by decide +kernel
  have hfacts : (check {} source).ast.any (fun e =>
      decide (e.text.utf8ByteSize ≤ ({} : Limits).maxTotalLength) &&
        e.numbers.all Float.isFinite) = true := by
    decide +kernel
  obtain ⟨e, hast, he⟩ := (Option.any_eq_true _ _).mp hfacts
  obtain ⟨hsize, hfinite⟩ := (Bool.and_eq_true _ _).mp he
  have hnumbers := List.all_eq_true.mp hfinite
  have hiff := check_text_again_iff_isFinite {} source e rfl hvalid hast (of_decide_eq_true hsize)
  exact ⟨e, hast, hvalid, of_decide_eq_true hsize, hnumbers, (hiff.mpr hnumbers).1⟩

/-- A rule with a number of 309 nines is valid, and its text is not. -/
theorem check_text_of_overflow_invalid :
    let source := "trace.has(a.b).where(x == " ++ String.ofList (List.replicate 309 '9') ++ ")"
    (check {} source).isValid = true ∧
      ∃ e, (check {} source).ast = some e ∧
        e.text.utf8ByteSize ≤ ({} : Limits).maxTotalLength ∧ (check {} e.text).isValid = false := by
  have hne : List.replicate 309 '9' ≠ [] := List.cons_ne_nil _ _
  have hdigits : ∀ c ∈ List.replicate 309 '9', Decimal.isDigit c = true := by
    intro c hc
    rw [List.eq_of_mem_replicate hc]
    rfl
  have hvalue : Decimal.ofScientific (Decimal.digitsValue (List.replicate 309 '9')) 0 =
      infinity := by
    decide +kernel
  have hread : Decimal.readDouble? (String.ofList (List.replicate 309 '9')) = some infinity := by
    rw [List.replicate_succ, Decimal.readDouble?_of_digit (by decide), ← List.replicate_succ,
      Decimal.readMagnitude?_whole hne hdigits, hvalue]
  exact check_text_of_overflow (.whole _ hne hdigits) hread (by decide +kernel)

end TraceCheck
