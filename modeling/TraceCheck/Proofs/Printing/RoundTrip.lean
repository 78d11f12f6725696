import TraceCheck.Proofs.Grammar.Derivability
import TraceCheck.Proofs.Printing.Recognition
import TraceCheck.Proofs.Printing.Text

/-!
# Reading printed expressions

Checking the text of an expression gives an equal expression exactly when the
expression is grammatical.  No other expression has a text that is read as an
equal one: the terminals of the text are those of a derivation, so a number that
is not written as a numeral would be missing among them.
-/

namespace TraceCheck

open TraceCheck.Reading

variable {l : Limits}

/-! ## Numbers of expressions and numerals of derivations -/

theorem Decimal.numeral_positional_iff (x : Float) :
    Decimal.Numeral (Decimal.positional x).toList ↔ Decimal.IsPlain x := by
  refine ⟨fun h => ?_, Decimal.IsPlain.numeral⟩
  obtain ⟨c, tail, hcons, hc⟩ := h.exists_cons
  rcases Decimal.isPlain_or_positional x with hx | hx | hx | ⟨cs, hx, -⟩
  · exact hx
  · rw [hx] at hcons
    injection hcons with hcons
    subst hcons
    cases hc
  · rw [hx] at hcons
    injection hcons with hcons
    subst hcons
    cases hc
  · rw [hx] at hcons
    injection hcons with hcons
    subst hcons
    cases hc

theorem wellSpelled_nil : WellSpelled [] := nofun

theorem wellSpelled_cons_same
    {a : Terminal} {w : List Terminal} (ha : a.kind ≠ .number) :
    WellSpelled (a :: w) ↔ WellSpelled w :=
  wellSpelled_cons_iff.trans (and_iff_right fun h => absurd h ha)

theorem wellSpelled_fixed_cons
    (kind : TokenKind) {w : List Terminal} (hkind : kind ≠ .number) :
    WellSpelled (.fixed kind :: w) ↔ WellSpelled w :=
  wellSpelled_cons_same hkind

theorem wellSpelled_name (m : Grammar.Name) : WellSpelled m.terminals := by
  refine (wellSpelled_cons_same m.first.kind_ne_number).mpr fun a ha hkind => ?_
  obtain ⟨w, -, ha⟩ := List.mem_flatMap.mp ha
  rcases List.mem_pair.mp ha with rfl | rfl
  · cases hkind
  · exact absurd hkind w.kind_ne_number

theorem wellSpelled_parenthesized {w : List Terminal} :
    WellSpelled (Grammar.parenthesized w) ↔ WellSpelled w := by
  unfold Grammar.parenthesized
  rw [wellSpelled_fixed_cons .lParen (by decide), wellSpelled_append_iff,
    wellSpelled_fixed_cons .rParen (by decide)]
  exact and_iff_left wellSpelled_nil

theorem wellSpelled_string (s : String) : WellSpelled [⟨.string, s⟩] :=
  List.forall_mem_singleton.mpr nofun

theorem Literal.IsScalar.wellSpelled_iff {x : Literal} (hx : x.IsScalar l) :
    WellSpelled [x.scalar.terminal] ↔ ∀ y ∈ x.numbers, Decimal.IsPlain y := by
  cases hx with
  | string s hlen => exact iff_of_true (wellSpelled_string s) (List.forall_mem_nil _)
  | number y =>
      rw [wellSpelled_cons_iff, Literal.numbers, List.forall_mem_singleton,
        ← Decimal.numeral_positional_iff]
      exact ⟨fun h => h.1 rfl, fun h => ⟨fun _ => h, wellSpelled_nil⟩⟩
  | bool b =>
      have hbool : (Literal.bool b).scalar.terminal.kind ≠ .number := by
        cases b <;> exact nofun
      exact iff_of_true ((wellSpelled_cons_same hbool).mpr wellSpelled_nil)
        (List.forall_mem_nil _)

theorem wellSpelled_items_iff
    {items : List Literal} (hitems : ∀ x ∈ items, x.IsScalar l) :
    WellSpelled (Grammar.itemTerminals (items.map Literal.scalar)) ↔
      ∀ y ∈ literalNumbers items, Decimal.IsPlain y := by
  have hclose : WellSpelled [.fixed .rBracket] :=
    (wellSpelled_fixed_cons .rBracket (by decide)).mpr wellSpelled_nil
  induction items with
  | nil => exact iff_of_true hclose (List.forall_mem_nil _)
  | cons x items ih =>
      obtain ⟨hx, hall⟩ := List.forall_mem_cons.mp hitems
      rw [literalNumbers, List.forall_mem_append]
      refine Iff.trans ?_ (and_congr hx.wellSpelled_iff (ih hall))
      cases items with
      | nil =>
          rw [List.map_singleton, itemTerminals_singleton, wellSpelled_append_iff]
          rfl
      | cons y items =>
          rw [List.map_cons, List.map_cons, itemTerminals_cons_cons, wellSpelled_append_iff,
            List.singleton_append, wellSpelled_fixed_cons .comma (by decide)]

theorem Comparator.Takes.wellSpelled_iff {op : Comparator} {x : Literal} (hx : op.Takes l x) :
    WellSpelled x.value.terminals ↔ ∀ y ∈ x.numbers, Decimal.IsPlain y := by
  cases hx with
  | pattern p hvet hlen =>
      exact iff_of_true (wellSpelled_string p.source) (List.forall_mem_nil _)
  | search s hlen => exact iff_of_true (wellSpelled_string s) (List.forall_mem_nil _)
  | list items hitems =>
      exact (wellSpelled_fixed_cons .lBracket (by decide)).trans (wellSpelled_items_iff hitems)
  | scalar _ _ _ _ hx =>
      rw [hx.value_eq]
      exact hx.wellSpelled_iff

theorem Clause.IsWellFormed.wellSpelled_iff {c : Clause} (hc : c.IsWellFormed l) :
    WellSpelled c.derivation.whereTerminals ↔ ∀ y ∈ c.test.numbers, Decimal.IsPlain y := by
  obtain ⟨name, test, negated⟩ := c
  have hnegated : WellSpelled (if negated then [.fixed .not] else []) := by
    cases negated with
    | false => exact wellSpelled_nil
    | true => exact (wellSpelled_fixed_cons .not (by decide)).mpr wellSpelled_nil
  have htest : WellSpelled test.derivation.terminals ↔
      ∀ y ∈ test.numbers, Decimal.IsPlain y := by
    cases test with
    | truthy => exact iff_of_true wellSpelled_nil (List.forall_mem_nil _)
    | compare op x =>
        exact (wellSpelled_cons_same (comparator_kind_ne_number op)).trans
          (Comparator.Takes.wellSpelled_iff hc.2)
  unfold Grammar.Clause.whereTerminals
  rw [wellSpelled_fixed_cons .dot (by decide), wellSpelled_fixed_cons .where (by decide),
    wellSpelled_parenthesized, Grammar.Clause.terminals, wellSpelled_append_iff,
    wellSpelled_append_iff]
  exact (and_iff_right hnegated).trans ((and_iff_right (wellSpelled_name _)).trans htest)

theorem wellSpelled_clauses_iff
    {cs : List Clause} (hcs : ∀ c ∈ cs, c.IsWellFormed l) :
    WellSpelled ((cs.map Clause.derivation).flatMap Grammar.Clause.whereTerminals) ↔
      ∀ y ∈ cs.flatMap (·.test.numbers), Decimal.IsPlain y := by
  induction cs with
  | nil => exact iff_of_true wellSpelled_nil (List.forall_mem_nil _)
  | cons c cs ih =>
      obtain ⟨hc, hall⟩ := List.forall_mem_cons.mp hcs
      rw [List.map_cons, List.flatMap_cons, List.flatMap_cons, wellSpelled_append_iff,
        List.forall_mem_append, hc.wellSpelled_iff, ih hall]

theorem wellSpelled_count (m : Grammar.Name) : WellSpelled (Grammar.countTerminals m) := by
  unfold Grammar.countTerminals
  rw [wellSpelled_fixed_cons .trace (by decide), wellSpelled_fixed_cons .dot (by decide),
    wellSpelled_fixed_cons .count (by decide), wellSpelled_parenthesized]
  exact wellSpelled_name m

theorem wellSpelled_operand (o : CountOperand) : WellSpelled o.derivation.terminals := by
  cases o with
  | literal n => exact List.forall_mem_singleton.mpr fun _ => Decimal.numeral_toString n
  | count name => exact wellSpelled_count _

namespace Expr

theorem IsTerm.wellSpelled_iff {t : Expr} (ht : t.IsTerm l) :
    WellSpelled t.term.terminals ↔ ∀ y ∈ t.numbers, Decimal.IsPlain y := by
  induction ht with
  | has name clauses hname hclauses =>
      rw [term, Grammar.Term.terminals, Grammar.Check.terminals,
        wellSpelled_fixed_cons .trace (by decide), wellSpelled_fixed_cons .dot (by decide),
        wellSpelled_fixed_cons .has (by decide), wellSpelled_append_iff, wellSpelled_parenthesized,
        wellSpelled_clauses_iff hclauses]
      exact and_iff_right (wellSpelled_name _)
  | count name op operand =>
      refine iff_of_true (wellSpelled_append_iff.mpr ⟨wellSpelled_count _, ?_⟩)
        (List.forall_mem_nil _)
      exact (wellSpelled_cons_same (comparator_kind_ne_number op)).mpr (wellSpelled_operand _)
  | not e _ ih => exact (wellSpelled_fixed_cons .not (by decide)).trans ih

/-- The numbers in the derivation of an expression are numerals exactly when all
numbers of the expression are plain. -/
theorem wellSpelled_iff {e : Expr} (he : ∀ t ∈ e.terms, t.IsTerm l) :
    WellSpelled e.derivation.terminals ↔ ∀ y ∈ e.numbers, Decimal.IsPlain y := by
  have hterm {t : Expr} (ht : t.IsTerm l) :
      WellSpelled t.derivation.terminals ↔ ∀ y ∈ t.numbers, Decimal.IsPlain y := by
    rw [ht.derivation_eq, Grammar.Chain.terminals_single]
    exact ht.wellSpelled_iff
  induction e with
  | binary op left right ihl _ =>
      obtain ⟨hleft, hright⟩ := List.forall_mem_append.mp he
      have hop : op.terminal.kind ≠ .number := by cases op <;> exact nofun
      rw [derivation, Grammar.Chain.terminals_append, wellSpelled_append_iff,
        wellSpelled_cons_same hop, numbers, List.forall_mem_append]
      exact and_congr (ihl hleft) (List.forall_mem_singleton.mp hright).wellSpelled_iff
  | not e _ => exact hterm (List.forall_mem_singleton.mp he)
  | has name clauses => exact hterm (List.forall_mem_singleton.mp he)
  | count name op operand => exact hterm (List.forall_mem_singleton.mp he)

end Expr

/-! ## Numbers that are lexed as numbers -/

theorem relexed_number (s : String) (w : List Terminal) :
    relexed l (⟨.number, s⟩ :: w) = lexed l s.toList ++ relexed l w :=
  rfl

theorem lexed_of_numeral {s : String} (hs : Decimal.Numeral s.toList) :
    lexed l s.toList = [some ⟨.number, s⟩] := by
  rw [lexed_numeral_alone hs, String.ofList_toList]

theorem relexed_eq_map_some {w : List Terminal} (hw : WellSpelled w) :
    relexed l w = w.map some := by
  induction w with
  | nil => rfl
  | cons a w ih =>
      obtain ⟨ha, htail⟩ := wellSpelled_cons_iff.mp hw
      by_cases hkind : a.kind = .number
      · obtain ⟨kind, s⟩ := a
        obtain rfl : kind = .number := hkind
        rw [relexed_number, lexed_of_numeral (ha rfl), ih htail]
        rfl
      · rw [relexed_cons hkind, ih htail]
        rfl

/-- Numbers that are lexed as numbers are numerals. -/
theorem wellSpelled_of_relexed_eq
    {v w : List Terminal} (hl : 8 ≤ l.maxIdentifierLength) (halike : Alike v w)
    (heq : relexed l v = w.map some) :
    WellSpelled v := by
  induction halike with
  | nil => exact wellSpelled_nil
  | cons hfirst _ ih =>
      cases hfirst with
      | same a ha =>
          rw [relexed_cons ha, List.map_cons] at heq
          injection heq with _ htail
          exact (wellSpelled_cons_same ha).mpr (ih htail)
      | whole n spelling =>
          have hn := Decimal.numeral_toString n
          rw [relexed_number, lexed_of_numeral hn] at heq
          injection heq with _ htail
          exact wellSpelled_cons_iff.mpr ⟨fun _ => hn, ih htail⟩
      | double x spelling =>
          rw [relexed_number] at heq
          have hword {word : String} (hprinted : word ∈ printedWords)
              (hkind : (wordTerminal word.toList).kind = .identifier)
              {v w : List (Option Terminal)}
              (h : lexed l word.toList ++ v = some ⟨.number, spelling⟩ :: w) : False := by
            rw [lexed_segment_alone (isSegment_printedWord hprinted hl)] at h
            injection h with h _
            injection h with h
            rw [h] at hkind
            cases hkind
          rcases Decimal.isPlain_or_positional x with hx | hx | hx | ⟨cs, hx, -⟩
          · rw [lexed_of_numeral hx.numeral] at heq
            injection heq with _ htail
            exact wellSpelled_cons_iff.mpr ⟨fun _ => hx.numeral, ih htail⟩
          · rw [hx] at heq
            exact (hword (by decide) (by decide) heq).elim
          · rw [hx] at heq
            exact (hword (by decide) (by decide) heq).elim
          · rw [hx, lexed_minus] at heq
            cases heq

/-! ## The round trip -/

/-- Checking the text of an expression gives an equal expression exactly when the
expression is grammatical. -/
theorem check_text_iff_isGrammatical
    (l : Limits) (e : Expr) (hl : l.expired = false) (hword : 8 ≤ l.maxIdentifierLength)
    (hsize : e.text.utf8ByteSize ≤ l.maxTotalLength) :
    ((check l e.text).isValid = true ∧
        ∃ a, (check l e.text).ast = some a ∧ (a == e) = true) ↔
      e.IsGrammatical l := by
  constructor
  · rintro ⟨hvalid, a, hast, hsame⟩
    have herrors := errors_eq_nil_of_isValid hvalid
    obtain ⟨d, b, hd, -, hfits, hb, hb'⟩ := exists_derives_of_isValid hl hvalid
    obtain rfl : b = a := Option.some.inj (hb'.symm.trans hast)
    have hlexed := (tokenize_terminals_iff hl hsize).mp ⟨herrors, hd⟩
    obtain ⟨hwell, halike⟩ :=
      isWellFormed_of_denotes (isLegible_of_lexed hlexed) hfits hb hsame
    have hrelexed := (Expr.lexes hwell.terms hword).lexed_eq.symm.trans hlexed
    have hspelled := wellSpelled_of_relexed_eq hword halike hrelexed
    exact ⟨hwell, (Expr.wellSpelled_iff hwell.terms).mp hspelled⟩
  · intro he
    have hspelled := (Expr.wellSpelled_iff he.terms).mpr he.numbers
    have hlexed := (Expr.lexes he.terms hword).lexed_eq.trans (relexed_eq_map_some hspelled)
    obtain ⟨herrors, hd⟩ := (tokenize_terminals_iff hl hsize).mpr hlexed
    obtain ⟨a, ha, hsame⟩ := he.exists_expr
    obtain ⟨b, hb, hvalid, hast⟩ := check_of_derives hl herrors hd he.fits
    obtain rfl : b = a := Option.some.inj (hb.symm.trans ha)
    exact ⟨hvalid, b, hast, hsame⟩

/-- A negated attribute and spans that have keywords as names. -/
theorem isGrammatical_keyword_names :
    let e : Expr := .binary .and
      (.not (.has "in.not" [⟨"not", .compare .in (.list [.string "a\"b", .number 1.5]), true⟩]))
      (.count "trace" .gte (.count "where"))
    (({} : Limits).expired = false ∧ 8 ≤ ({} : Limits).maxIdentifierLength ∧
      e.text.utf8ByteSize ≤ ({} : Limits).maxTotalLength) ∧
      (check {} e.text).isValid = true ∧ e.IsGrammatical {} := by
  intro e
  have hsize : e.text.utf8ByteSize ≤ ({} : Limits).maxTotalLength := by decide +kernel
  have hvalid : (check {} e.text).isValid = true := by decide +kernel
  have hast : (check {} e.text).ast.any (· == e) = true := by decide +kernel
  have hiff := check_text_iff_isGrammatical {} e rfl (by decide) hsize
  exact ⟨⟨rfl, by decide, hsize⟩, hvalid,
    hiff.mp ⟨hvalid, (Option.any_eq_true _ _).mp hast⟩⟩

end TraceCheck
