import TraceCheck.Expr.Printer
import TraceCheck.Proofs.Grammar.Denotation
import TraceCheck.Proofs.Printing.Grammatical
import TraceCheck.Proofs.Decimal.RoundTrip
import TraceCheck.Proofs.Token.Lexing

/-!
# Derivations of expressions

`Expr.derivation` is the derivation that the text of an expression has when the
expression is grammatical.  Its numbers are spelled as they are printed.  For a
well-formed expression the derivation fits, and for a grammatical one it denotes
an equal expression.
-/

namespace TraceCheck

open TraceCheck.Reading

variable {l : Limits}

/-! ## From expressions to derivations -/

namespace Grammar

/-- The word with some characters. -/
def Word.ofChars (cs : List Char) : Word :=
  ⟨wordTerminal cs, isWord_wordTerminal cs⟩

theorem Word.kind_ne_number (w : Word) : w.terminal.kind ≠ .number := by
  intro hkind
  have hword := w.isWord
  rw [hkind] at hword
  cases hword

/-- The name with some parts. -/
def Name.ofSegments : List (List Char) → Name
  | [] => ⟨.ofChars [], []⟩
  | cs :: others => ⟨.ofChars cs, others.map .ofChars⟩

/-- The name that a text is. -/
def Name.ofText (name : String) : Name :=
  .ofSegments (segments name)

namespace Chain

variable (first t : Term) (links : List (LogicalOp × Term)) (op : LogicalOp)

theorem terminals_single : (Chain.mk first []).terminals = first.terminals :=
  List.append_nil _

theorem terminals_append :
    (Chain.mk first (links ++ [(op, t)])).terminals =
      (Chain.mk first links).terminals ++ (op.terminal :: t.terminals) := by
  simp [terminals]

theorem terms_append :
    (Chain.mk first (links ++ [(op, t)])).terms = (Chain.mk first links).terms ++ [t] := by
  simp [terms]

theorem expr?_append :
    (Chain.mk first (links ++ [(op, t)])).expr? = join (Chain.mk first links).expr? (op, t) := by
  simp [expr?]

end Chain

end Grammar

/-- The derivation of a scalar. A list is none and has that of a truth value. -/
def Literal.scalar : Literal → Grammar.Scalar
  | .string s => .string s
  | .number x => .number (Decimal.positional x)
  | .bool b => .bool b
  | .list _ => .bool false
  | .pattern p => .string p.source

/-- The derivation of a value. -/
def Literal.value : Literal → Grammar.Value
  | .list items => .list (items.map Literal.scalar)
  | x => .scalar x.scalar

theorem Literal.IsScalar.value_eq {x : Literal} (hx : x.IsScalar l) :
    x.value = .scalar x.scalar := by
  cases hx <;> rfl

/-- The derivation of what is asked of an attribute. -/
def Test.derivation : Test → Grammar.Test
  | .truthy => .truthy
  | .compare op x => .compare op x.value

/-- The derivation of a condition. -/
def Clause.derivation (c : Clause) : Grammar.Clause :=
  ⟨c.negated, .ofText c.name, c.test.derivation⟩

/-- The derivation of what a count is compared with. -/
def CountOperand.derivation : CountOperand → Grammar.Operand
  | .literal n => .number (toString n)
  | .count name => .count (.ofText name)

namespace Expr

/-- The derivation of a term. Two joined terms are none and have that of the
second one. -/
def term : Expr → Grammar.Term
  | binary _ _ right => right.term
  | not e => .not e.term
  | has name clauses => .check (.has (.ofText name) (clauses.map Clause.derivation))
  | count name op operand => .check (.count (.ofText name) op operand.derivation)

/-- The derivation of an expression. -/
def derivation : Expr → Grammar.Chain
  | binary op left right =>
    ⟨left.derivation.first, left.derivation.others ++ [(op, right.term)]⟩
  | e => ⟨e.term, []⟩

theorem terms_derivation (e : Expr) : e.derivation.terms = e.terms.map Expr.term := by
  induction e with
  | binary op left right ihl _ =>
      rw [derivation, Grammar.Chain.terms_append, ihl, terms, List.map_append]
      rfl
  | not e _ => rfl
  | has name clauses => rfl
  | count name op operand => rfl

theorem IsTerm.terms_eq {t : Expr} (ht : t.IsTerm l) : t.terms = [t] := by
  cases ht <;> rfl

theorem IsTerm.derivation_eq {t : Expr} (ht : t.IsTerm l) : t.derivation = ⟨t.term, []⟩ := by
  cases ht <;> rfl

theorem nots_term {t : Expr} (ht : t.IsTerm l) : t.term.nots = t.nots := by
  induction ht with
  | has => rfl
  | count => rfl
  | not e _ ih => exact congrArg (· + 1) ih

end Expr

/-! ## Derivations fit -/

theorem Literal.IsScalar.fits
    {op : Comparator} {x : Literal} (hx : x.IsScalar l) (hmatches : op ≠ .matches)
    (hcontains : op ≠ .contains) :
    x.value.Fits op := by
  cases hx with
  | string s => exact fun hop => absurd hop hmatches
  | number x => exact ⟨hmatches, hcontains⟩
  | bool b => exact ⟨hmatches, hcontains⟩

theorem Comparator.Takes.fits
    {op : Comparator} {x : Literal} (hx : op.Takes l x) : x.value.Fits op := by
  cases hx with
  | pattern p hvet hlen => exact fun _ => hvet
  | search s hlen => exact fun hop => absurd hop (by decide)
  | list items hitems => exact rfl
  | scalar op x hmatches hcontains hx => exact hx.fits hmatches hcontains

theorem Test.IsWellFormed.fits {t : Test} (ht : t.IsWellFormed l) : t.derivation.Fits := by
  cases t with
  | truthy => trivial
  | compare op x => exact Comparator.Takes.fits ht

theorem CountOperand.IsWellFormed.fits
    {o : CountOperand} (ho : o.IsWellFormed l) : o.derivation.Fits := by
  cases o with
  | literal n => exact ⟨Decimal.isDigit_of_mem_toString n, (Decimal.digitsValue_toString n).symm ▸ ho⟩
  | count name => trivial

theorem Expr.IsTerm.fits {t : Expr} (ht : t.IsTerm l) : t.term.Fits := by
  induction ht with
  | has name clauses hname hclauses =>
      intro d hd
      obtain ⟨c, hc, rfl⟩ := List.mem_map.mp hd
      exact (hclauses c hc).2.fits
  | count name op operand hname hop hoperand => exact ⟨hop, hoperand.fits⟩
  | not e _ ih => exact ih

/-- The derivation of a well-formed expression fits. -/
theorem Expr.IsWellFormed.fits {e : Expr} (he : e.IsWellFormed l) :
    e.derivation.Fits l.maxRecursionDepth := by
  unfold Grammar.Chain.Fits
  rw [Expr.terms_derivation]
  constructor
  · intro d hd
    obtain ⟨t, ht, rfl⟩ := List.mem_map.mp hd
    exact (he.terms t ht).fits
  · intro i d hd
    rw [List.getElem?_map] at hd
    obtain ⟨t, ht, rfl⟩ := Option.map_eq_some_iff.mp hd
    rw [Expr.nots_term (he.terms t (List.mem_of_getElem? ht))]
    exact he.depth i t ht

/-! ## Derivations denote -/

theorem intercalate_segments (css : List (List Char)) :
    ((Grammar.Name.ofSegments css).text).toList = ['.'].intercalate css := by
  cases css with
  | nil => rfl
  | cons cs others =>
      have hfirst : (Grammar.Name.ofSegments (cs :: others)).text =
          String.ofList cs ++
            String.join ((others.map Grammar.Word.ofChars).map fun w => "." ++ w.terminal.text) :=
        rfl
      rw [hfirst, String.toList_append, String.toList_ofList]
      induction others generalizing cs with
      | nil => simp
      | cons cs' others ih =>
          rw [List.intercalate_cons_cons, ← ih cs' rfl, List.map_cons, List.map_cons,
            String.join_cons]
          simp [Grammar.Word.ofChars, wordTerminal]

theorem Grammar.Name.text_ofText (name : String) : (Grammar.Name.ofText name).text = name := by
  apply String.toList_injective
  unfold Grammar.Name.ofText segments
  rw [intercalate_segments, List.intercalate_splitOn]

theorem Literal.IsScalar.literal?_scalar
    {x : Literal} (hx : x.IsScalar l) (hnumbers : ∀ y ∈ x.numbers, Decimal.IsPlain y) :
    x.scalar.literal? = some x ∧ (x == x) = true := by
  cases hx with
  | string s hlen => exact ⟨rfl, beq_self_eq_true s⟩
  | number y =>
      have hy : Decimal.IsPlain y := hnumbers y List.mem_cons_self
      refine ⟨?_, Decimal.beq_self hy.number⟩
      rw [Literal.scalar, Grammar.Scalar.literal?, Decimal.readDouble?_positional hy]
      rfl
  | bool b => exact ⟨rfl, beq_self_eq_true b⟩

theorem literal?_scalars
    {items : List Literal} (hitems : ∀ x ∈ items, x.IsScalar l)
    (hnumbers : ∀ y ∈ literalNumbers items, Decimal.IsPlain y) :
    (items.map Literal.scalar).mapM Grammar.Scalar.literal? = some items ∧
      sameLiterals items items = true := by
  induction items with
  | nil => exact ⟨rfl, rfl⟩
  | cons x items ih =>
      obtain ⟨hx, hall⟩ := List.forall_mem_cons.mp hitems
      obtain ⟨hfirst, hothers⟩ := List.forall_mem_append.mp hnumbers
      obtain ⟨hliteral, hsame⟩ := hx.literal?_scalar hfirst
      obtain ⟨hliterals, hsames⟩ := ih hall hothers
      refine ⟨mapM_cons_eq_some_iff.mpr ⟨x, items, hliteral, hliterals, rfl⟩, ?_⟩
      rw [sameLiterals, hsames, Bool.and_true]
      exact hsame

theorem literal?_value_of_isScalar
    {op : Comparator} {x : Literal} (hx : x.IsScalar l) (hmatches : op ≠ .matches)
    (hnumbers : ∀ y ∈ x.numbers, Decimal.IsPlain y) :
    ∃ y, x.value.literal? op = some y ∧ (y == x) = true := by
  obtain ⟨hliteral, hsame⟩ := hx.literal?_scalar hnumbers
  refine ⟨x, ?_, hsame⟩
  cases hx with
  | string s hlen => exact value_literal?_string hmatches
  | number y => exact hliteral
  | bool b => exact hliteral

theorem Comparator.Takes.exists_literal
    {op : Comparator} {x : Literal} (hx : op.Takes l x)
    (hnumbers : ∀ y ∈ x.numbers, Decimal.IsPlain y) :
    ∃ y, x.value.literal? op = some y ∧ (y == x) = true := by
  cases hx with
  | pattern p hvet hlen =>
      obtain ⟨program, hprogram⟩ := hvet
      obtain ⟨q, hq⟩ := exists_ofText hprogram
      have hsource : q.source = p.source := (ofText_spec (ofText_of_toOption hq)).1
      refine ⟨.pattern q, Option.map_eq_some_iff.mpr ⟨q, hq, rfl⟩, ?_⟩
      change (q.source == p.source) = true
      rw [hsource, beq_self_eq_true]
  | search s hlen => exact ⟨.string s, rfl, beq_self_eq_true s⟩
  | list items hitems =>
      obtain ⟨hliterals, hsame⟩ := literal?_scalars hitems hnumbers
      exact ⟨.list items, Option.map_eq_some_iff.mpr ⟨items, hliterals, rfl⟩, hsame⟩
  | scalar op x hmatches hcontains hx =>
      exact literal?_value_of_isScalar hx hmatches hnumbers

theorem Clause.IsWellFormed.exists_meaning
    {c : Clause} (hc : c.IsWellFormed l) (hnumbers : ∀ y ∈ c.test.numbers, Decimal.IsPlain y) :
    ∃ b, c.derivation.meaning? = some b ∧ (b == c) = true := by
  obtain ⟨name, test, negated⟩ := c
  have htest : ∃ t, test.derivation.meaning? = some t ∧ (t == test) = true := by
    cases test with
    | truthy => exact ⟨.truthy, rfl, rfl⟩
    | compare op x =>
        obtain ⟨y, hy, hsame⟩ := Comparator.Takes.exists_literal hc.2 hnumbers
        refine ⟨.compare op y, Option.map_eq_some_iff.mpr ⟨y, hy, rfl⟩, ?_⟩
        change (op == op && y == x) = true
        rw [hsame, beq_self_eq_true]
        rfl
  obtain ⟨t, ht, hsame⟩ := htest
  refine ⟨⟨name, t, negated⟩, ?_, ?_⟩
  · rw [Grammar.Clause.meaning?]
    change test.derivation.meaning?.map (fun t => Clause.mk (Grammar.Name.ofText name).text t _) = _
    rw [ht, Grammar.Name.text_ofText]
    rfl
  · change (name == name && (t == test && negated == negated)) = true
    rw [hsame, beq_self_eq_true, beq_self_eq_true]
    rfl

theorem exists_clauses_meaning
    {cs : List Clause} (hcs : ∀ c ∈ cs, c.IsWellFormed l)
    (hnumbers : ∀ y ∈ cs.flatMap (·.test.numbers), Decimal.IsPlain y) :
    ∃ bs, (cs.map Clause.derivation).mapM Grammar.Clause.meaning? = some bs ∧
      (bs == cs) = true := by
  induction cs with
  | nil => exact ⟨[], rfl, rfl⟩
  | cons c cs ih =>
      obtain ⟨hc, hall⟩ := List.forall_mem_cons.mp hcs
      rw [List.flatMap_cons] at hnumbers
      obtain ⟨hfirst, hothers⟩ := List.forall_mem_append.mp hnumbers
      obtain ⟨b, hb, hsame⟩ := hc.exists_meaning hfirst
      obtain ⟨bs, hbs, hsames⟩ := ih hall hothers
      refine ⟨b :: bs, mapM_cons_eq_some_iff.mpr ⟨b, bs, hb, hbs, rfl⟩, ?_⟩
      rw [List.cons_beq_cons, hsame, hsames]
      rfl

theorem CountOperand.IsWellFormed.meaning?_derivation
    {o : CountOperand} (ho : o.IsWellFormed l) : o.derivation.meaning? = some o := by
  cases o with
  | literal n =>
      have hread : Decimal.readNat? countBound (toString n) = some n :=
        (Decimal.numeral_toString n).readNat?_eq_some_iff.mpr
          ⟨ho.fits.1, ho.fits.2, (Decimal.digitsValue_toString n).symm⟩
      exact Option.map_eq_some_iff.mpr ⟨n, hread, rfl⟩
  | count name =>
      change some (CountOperand.count (Grammar.Name.ofText name).text) = _
      rw [Grammar.Name.text_ofText]

namespace Expr

theorem IsTerm.exists_expr
    {t : Expr} (ht : t.IsTerm l) (hnumbers : ∀ y ∈ t.numbers, Decimal.IsPlain y) :
    ∃ a, t.term.expr? = some a ∧ (a == t) = true := by
  induction ht with
  | not e _ ih =>
      obtain ⟨a, ha, hsame⟩ := ih hnumbers
      exact ⟨.not a, Option.map_eq_some_iff.mpr ⟨a, ha, rfl⟩, hsame⟩
  | has name clauses hname hclauses =>
      obtain ⟨bs, hbs, hsame⟩ := exists_clauses_meaning hclauses hnumbers
      refine ⟨.has name bs, ?_, ?_⟩
      · change ((clauses.map Clause.derivation).mapM Grammar.Clause.meaning?).map
          (Expr.has (Grammar.Name.ofText name).text) = _
        rw [hbs, Grammar.Name.text_ofText]
        rfl
      · change (name == name && bs == clauses) = true
        rw [hsame, beq_self_eq_true]
        rfl
  | count name op operand hname hop hoperand =>
      refine ⟨.count name op operand, ?_, ?_⟩
      · change operand.derivation.meaning?.map
          (Expr.count (Grammar.Name.ofText name).text op) = _
        rw [hoperand.meaning?_derivation, Grammar.Name.text_ofText]
        rfl
      · change (name == name && (op == op && operand == operand)) = true
        rw [beq_self_eq_true, beq_self_eq_true, beq_self_eq_true]
        rfl

theorem exists_expr_of_terms
    {e : Expr} (hterms : ∀ t ∈ e.terms, t.IsTerm l)
    (hnumbers : ∀ y ∈ e.numbers, Decimal.IsPlain y) :
    ∃ a, e.derivation.expr? = some a ∧ (a == e) = true := by
  induction e with
  | binary op left right ihl _ =>
      obtain ⟨hleft, hright⟩ := List.forall_mem_append.mp hterms
      obtain ⟨hleftNumbers, hrightNumbers⟩ := List.forall_mem_append.mp hnumbers
      obtain ⟨a, ha, hsamea⟩ := ihl hleft hleftNumbers
      obtain ⟨b, hb, hsameb⟩ :=
        (List.forall_mem_singleton.mp hright).exists_expr hrightNumbers
      refine ⟨.binary op a b, ?_, ?_⟩
      · rw [derivation, Grammar.Chain.expr?_append, ha]
        change (right.term.expr?.bind fun b => some (binary op a b)) = _
        rw [hb]
        rfl
      · change (op == op && (a == left && b == right)) = true
        rw [hsamea, hsameb, beq_self_eq_true]
        rfl
  | not e _ => exact (List.forall_mem_singleton.mp hterms).exists_expr hnumbers
  | has name clauses => exact (List.forall_mem_singleton.mp hterms).exists_expr hnumbers
  | count name op operand => exact (List.forall_mem_singleton.mp hterms).exists_expr hnumbers

/-- The derivation of a grammatical expression denotes an equal one. -/
theorem IsGrammatical.exists_expr {e : Expr} (he : e.IsGrammatical l) :
    ∃ a, e.derivation.expr? = some a ∧ (a == e) = true :=
  exists_expr_of_terms he.terms he.numbers

end Expr

end TraceCheck
