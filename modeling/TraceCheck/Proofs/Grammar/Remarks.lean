import TraceCheck.Proofs.Grammar.Reports

/-!
# Remarks

Remarks are noted while a rule is read, when the expression is not yet complete.  Still those
on a valid rule can be read off its expression from left to right: what a step has noted when
it has a result is what the result tells.  So the remarks depend on the meaning of a rule
alone.
-/

namespace TraceCheck

open TraceCheck.Reading

/-- The remark that a finding is, if it is no error. -/
def Finding.lint? : Finding → Option Lint
  | .error .. => none
  | .lint l _ _ => some l

namespace Reading

variable {α β : Type}

/-! ## What a step has noted -/

/-- The remarks among some findings. -/
def lints (found : List Finding) : List Lint :=
  found.filterMap Finding.lint?

theorem lints_append (xs ys : List Finding) : lints (xs ++ ys) = lints xs ++ lints ys :=
  List.filterMap_append

theorem map_advice_remarks (found : List Finding) :
    (remarks found).map Diagnostic.advice = (lints found).map Lint.advice := by
  induction found with
  | nil => rfl
  | cons f found ih =>
      rw [← List.singleton_append, remarks_append, lints_append, List.map_append,
        List.map_append, ih]
      cases f with
      | error e t => rfl
      | lint l first length => cases l <;> rfl

/-- When a step behind some remarks has a result, this and all remarks so far are as they
should be. -/
def Step.Notes (before : List Lint) (p : Step α) (after : α → List Lint → Prop) : Prop :=
  ∀ ctx ts a rest, Gives p ctx ts a rest → after a (before ++ lints (p ctx ts).findings)

/-- A step notes no remarks. -/
def Step.Silent (p : Step α) : Prop :=
  ∀ ctx ts, lints (p ctx ts).findings = []

variable {before : List Lint}

theorem Silent.bind {p : Step α} {f : α → Step β} (hp : p.Silent) (hf : ∀ a, (f a).Silent) :
    (p >>= f).Silent := by
  intro ctx ts
  have hfirst := hp ctx ts
  cases hrun : p ctx ts with
  | mk found mid result =>
      rw [hrun] at hfirst
      cases result with
      | ok a =>
          rw [run_bind_of_ok hrun, lints_append, hfirst, hf a ctx mid]
          rfl
      | error e =>
          rw [run_bind_of_error hrun]
          exact hfirst

theorem Silent.enter (taken : Nat) : (enter taken).Silent := by
  intro ctx ts
  unfold Reading.enter
  split <;> rfl

theorem Step.Plain.silent {p : Step α} (hp : p.Plain) : p.Silent := by
  induction hp with
  | bind _ _ ihp ihf => exact Silent.bind ihp ihf
  | enter taken => exact Silent.enter taken
  | _ => exact fun _ _ => rfl

/-! ## What is noted on the way to a result -/

namespace Notes

variable {after : β → List Lint → Prop}

theorem pure {b : β} (h : after b before) : (Pure.pure b : Step β).Notes before after := by
  intro ctx ts b' rest hgives
  obtain ⟨rfl, -⟩ := gives_pure.mp hgives
  have hnone : lints ((Pure.pure b' : Step β) ctx ts).findings = [] := (Step.Plain.pure b').silent ctx ts
  rwa [hnone, List.append_nil]

theorem bind {p : Step α} {f : α → Step β} {mid : α → List Lint → Prop}
    (hp : p.Notes before mid) (hf : ∀ a ls, mid a ls → (f a).Notes ls after) :
    (p >>= f).Notes before after := by
  intro ctx ts b rest h
  obtain ⟨a, next, ha, hb⟩ := gives_bind.mp h
  have hafter := hf a _ (hp ctx ts a next ha) ctx next b rest hb
  rwa [run_bind_of_ok ha.run, lints_append, ← List.append_assoc]

/-- A step that notes a known list of remarks for its result. -/
theorem bind_eq {p : Step α} {f : α → Step β} {told : α → List Lint}
    (hp : p.Notes before fun a ls => ls = told a) (hf : ∀ a, (f a).Notes (told a) after) :
    (p >>= f).Notes before after :=
  bind hp fun a _ h => h ▸ hf a

theorem plain_bind {p : Step α} {f : α → Step β} (hp : p.Plain)
    (hf : ∀ a, (f a).Notes before after) : (p >>= f).Notes before after := by
  have hsilent : p.Notes before fun _ ls => ls = before := by
    intro ctx ts a rest _
    rw [hp.silent, List.append_nil]
  exact bind_eq hsilent hf

theorem remark_bind {ls : List Lint} {first : Token} {length : Nat} {f : Unit → Step β}
    (hf : (f ()).Notes (before ++ ls) after) :
    (remark ls first length >>= f).Notes before after := by
  have hremark : (remark ls first length).Notes before fun _ noted => noted = before ++ ls := by
    intro ctx ts a rest _
    have hfindings : (remark ls first length ctx ts).findings =
        ls.map fun l => .lint l first length := rfl
    rw [hfindings, lints, List.filterMap_map]
    exact congrArg (before ++ ·) List.filterMap_some
  exact bind_eq hremark fun _ => hf

theorem ite {c : Prop} [Decidable c] {p q : Step β} (hp : p.Notes before after)
    (hq : q.Notes before after) : (if c then p else q).Notes before after := by
  split
  · exact hp
  · exact hq

theorem fail (e : ParseError) (place : Token) : (fail e place : Step β).Notes before after :=
  fun _ _ _ _ h => absurd h not_gives_fail

theorem unexpected (what : Expectation) : (unexpected what : Step β).Notes before after :=
  fun _ _ _ _ h => absurd h not_gives_unexpected

/-! ### Checks -/

theorem spanName : spanName.Notes before fun n ls => ls = before ++ Lint.ofSpanName n := by
  refine plain_bind (.dottedName _) fun n => ?_
  refine remark_bind ?_
  exact pure rfl

theorem spanArgument :
    spanArgument.Notes before fun n ls => ls = before ++ Lint.ofSpanName n := by
  refine plain_bind (.expect _ _) fun _ => ?_
  refine bind_eq spanName fun n => ?_
  refine plain_bind (.expect _ _) fun _ => ?_
  exact pure rfl

theorem attributeTest (name : DottedName) (negated : Bool) :
    (attributeTest name).Notes before fun test ls =>
      ls = before ++ Lint.ofClause ⟨name.text, test, negated⟩ := by
  refine plain_bind .peek fun t => ?_
  refine ite ?_ ?_
  · exact pure (List.append_nil before).symm
  · refine plain_bind .comparator fun op => ?_
    refine plain_bind (.value op) fun x => ?_
    refine remark_bind ?_
    exact pure rfl

theorem clause : clause.Notes before fun c ls => ls = before ++ Lint.ofClause c := by
  refine plain_bind (.expect _ _) fun _ => ?_
  refine plain_bind .negation fun negated => ?_
  refine plain_bind (.dottedName _) fun name => ?_
  refine bind_eq (attributeTest name negated) fun test => ?_
  refine plain_bind (.expect _ _) fun _ => ?_
  exact pure rfl

theorem clauses (fuel : Nat) :
    (clauses fuel).Notes before fun cs ls => ls = before ++ cs.flatMap Lint.ofClause := by
  induction fuel generalizing before with
  | zero => exact pure (List.append_nil before).symm
  | succ fuel ih =>
      refine plain_bind .peek fun t => ?_
      refine ite ?_ ?_
      · refine plain_bind .pass fun _ => ?_
        refine plain_bind (.expect _ _) fun _ => ?_
        refine bind_eq clause fun c => ?_
        refine bind_eq ih fun cs => ?_
        exact pure (by rw [List.flatMap_cons, List.append_assoc])
      · exact pure (List.append_nil before).symm

theorem countOperand (name : String) (op : Comparator) :
    (countOperand op).Notes (before ++ Lint.ofSpanName name) fun operand ls =>
      ls = before ++ (Expr.count name op operand).lints := by
  refine plain_bind .peek fun t => ?_
  split
  · refine plain_bind .pass fun _ => ?_
    split
    · refine remark_bind ?_
      exact pure (List.append_assoc _ _ _)
    · exact fail _ _
  · refine plain_bind .pass fun _ => ?_
    refine plain_bind (.expect _ _) fun _ => ?_
    refine plain_bind (.expect _ _) fun _ => ?_
    refine bind_eq spanArgument fun other => ?_
    exact pure (List.append_assoc _ _ _)
  · exact fail _ _

theorem spanCheck : spanCheck.Notes before fun e ls => ls = before ++ e.lints := by
  refine plain_bind (.expect _ _) fun _ => ?_
  refine plain_bind (.expect _ _) fun _ => ?_
  refine plain_bind .peek fun t => ?_
  split
  · refine plain_bind .pass fun _ => ?_
    refine bind_eq spanArgument fun name => ?_
    refine plain_bind .size fun n => ?_
    refine bind_eq (clauses n) fun cs => ?_
    exact pure (List.append_assoc _ _ _)
  · refine plain_bind .pass fun _ => ?_
    refine bind_eq spanArgument fun name => ?_
    refine plain_bind .peek fun t => ?_
    refine plain_bind .comparator fun op => ?_
    refine ite ?_ (fail _ _)
    refine bind_eq (countOperand name op) fun operand => ?_
    exact pure rfl
  · exact unexpected _

/-! ### Expressions -/

theorem term (fuel taken : Nat) :
    (term fuel taken).Notes before fun e ls => ls = before ++ e.lints := by
  induction fuel generalizing taken with
  | zero => exact unexpected _
  | succ fuel ih =>
      rw [term_succ]
      refine plain_bind .peek fun t => ?_
      refine ite ?_ spanCheck
      refine plain_bind .pass fun _ => ?_
      refine plain_bind (.enter taken) fun _ => ?_
      refine bind_eq (ih (taken + 1)) fun e => ?_
      exact pure rfl

/-- The remarks so far are those on the expression so far, if there is one. -/
def OnExpr (o : Option Expr) (ls : List Lint) : Prop :=
  ∀ e, o = some e → ls = e.lints

theorem onExpr_some (e : Expr) : OnExpr (some e) e.lints := by
  rintro e' heq
  rw [Option.some.inj heq]

/-- A term that is tried either is read or leaves no expression. -/
theorem attempt_term_bind {fuel taken : Nat} {f : Option Expr → Step (Option Expr)}
    (hf : ∀ e, (f (some e)).Notes (before ++ e.lints) OnExpr) (hnone : (f none).Barren) :
    (attempt (Reading.term fuel taken) >>= f).Notes before OnExpr := by
  intro ctx ts o rest h e heq
  subst heq
  obtain ⟨right, mid, hright, hrest⟩ := gives_bind.mp h
  cases right with
  | none => exact absurd hrest.1 (hnone ctx mid e)
  | some a =>
      have hgives := gives_attempt_some.mp hright
      have hfindings : (attempt (Reading.term fuel taken) ctx ts).findings =
          (Reading.term fuel taken ctx ts).findings := by
        rw [attempt, hgives.run]
      have hterm : before ++ lints (Reading.term fuel taken ctx ts).findings = before ++ a.lints :=
        term fuel taken ctx ts a mid hgives
      have hafter := hf a ctx mid _ rest hrest e rfl
      rwa [run_bind_of_ok hright.run, lints_append, ← List.append_assoc, hfindings, hterm]

theorem chain (fuel taken : Nat) (left : Expr) :
    (chain fuel taken (some left)).Notes left.lints OnExpr := by
  induction fuel generalizing taken left with
  | zero => exact pure (onExpr_some left)
  | succ fuel ih =>
      rw [chain_succ]
      refine plain_bind .peek fun t => ?_
      split
      · exact pure (onExpr_some left)
      next op _ =>
        refine plain_bind .pass fun _ => ?_
        refine remark_bind ?_
        refine plain_bind (.enter taken) fun _ => ?_
        refine plain_bind .size fun n => ?_
        apply attempt_term_bind
        · intro right
          exact ih (taken + 1) (.binary op left right)
        · exact Barren.chain fuel (taken + 1)

theorem expression : expression.Notes [] OnExpr := by
  rw [expression_eq]
  refine plain_bind .size fun n => ?_
  apply attempt_term_bind
  · intro first
    refine plain_bind .size fun n => ?_
    exact chain n 0 first
  · apply Barren.bind
    intro n
    exact Barren.chain n 0

end Notes

end Reading

/-! ## Remarks and meaning -/

/-- Of a literal, a remark depends on its kind alone. -/
theorem Lint.ofComparison_eq_of_beq (name : String) (op : Comparator) {x x' : Literal}
    (h : (x == x') = true) : Lint.ofComparison name op x = Lint.ofComparison name op x' := by
  cases x with
  | number y =>
      cases x' with
      | number y' => cases op <;> rfl
      | _ => cases h
  | _ =>
      cases x' with
      | number y' => cases h
      | _ => cases op <;> rfl

theorem Lint.ofClause_eq_of_beq {c c' : Clause} (h : (c == c') = true) :
    Lint.ofClause c = Lint.ofClause c' := by
  obtain ⟨name, test, negated⟩ := c
  obtain ⟨name', test', negated'⟩ := c'
  obtain ⟨hname, hsame⟩ := (Bool.and_eq_true _ _).mp h
  obtain ⟨htest, -⟩ := (Bool.and_eq_true _ _).mp hsame
  obtain rfl : name = name' := beq_iff_eq.mp hname
  cases test with
  | truthy =>
      cases test' with
      | truthy => rfl
      | compare op' x' => cases htest
  | compare op x =>
      cases test' with
      | truthy => cases htest
      | compare op' x' =>
          obtain ⟨hop, hvalue⟩ := (Bool.and_eq_true _ _).mp htest
          obtain rfl : op = op' := beq_iff_eq.mp hop
          exact Lint.ofComparison_eq_of_beq name op hvalue

theorem Lint.flatMap_ofClause_eq_of_beq {cs cs' : List Clause} (h : (cs == cs') = true) :
    cs.flatMap Lint.ofClause = cs'.flatMap Lint.ofClause := by
  induction cs generalizing cs' with
  | nil =>
      cases cs' with
      | nil => rfl
      | cons c' cs' => cases h
  | cons c cs ih =>
      cases cs' with
      | nil => cases h
      | cons c' cs' =>
          rw [List.cons_beq_cons] at h
          obtain ⟨hfirst, hothers⟩ := (Bool.and_eq_true _ _).mp h
          rw [List.flatMap_cons, List.flatMap_cons, Lint.ofClause_eq_of_beq hfirst, ih hothers]

/-- Equal expressions have the same remarks, also when their numbers are only equal as
numbers. -/
theorem Expr.lints_eq_of_beq {e e' : Expr} (h : (e == e') = true) : e.lints = e'.lints := by
  induction e generalizing e' with
  | binary op left right ihl ihr =>
      cases e' with
      | binary op' left' right' =>
          obtain ⟨hop, hsides⟩ := (Bool.and_eq_true _ _).mp h
          obtain ⟨hleft, hright⟩ := (Bool.and_eq_true _ _).mp hsides
          obtain rfl : op = op' := beq_iff_eq.mp hop
          rw [Expr.lints, Expr.lints, ihl hleft, ihr hright]
      | _ => cases h
  | not e ih =>
      cases e' with
      | not inner =>
          have hinner : e.lints = inner.lints := ih h
          exact hinner
      | _ => cases h
  | has name clauses =>
      cases e' with
      | has name' clauses' =>
          obtain ⟨hname, hclauses⟩ := (Bool.and_eq_true _ _).mp h
          obtain rfl : name = name' := beq_iff_eq.mp hname
          rw [Expr.lints, Expr.lints, Lint.flatMap_ofClause_eq_of_beq hclauses]
      | _ => cases h
  | count name op operand =>
      cases e' with
      | count name' op' operand' =>
          obtain ⟨hname, hsides⟩ := (Bool.and_eq_true _ _).mp h
          obtain ⟨hop, hoperand⟩ := (Bool.and_eq_true _ _).mp hsides
          obtain rfl : name = name' := beq_iff_eq.mp hname
          obtain rfl : op = op' := beq_iff_eq.mp hop
          obtain rfl : operand = operand' := beq_iff_eq.mp hoperand
          rfl
      | _ => cases h

/-- The remarks on a valid rule are those on its expression from left to right. -/
theorem advice_warnings_of_isValid {l : Limits} {source : String}
    (hvalid : (check l source).isValid = true) :
    ∃ e, (check l source).ast = some e ∧
      (check l source).warnings.map Diagnostic.advice = e.lints.map Lint.advice := by
  obtain ⟨ctx, ts, e, hgives, hast, hwarnings⟩ := exists_gives_of_check hvalid
  have hlints : lints (expression ctx ts).findings = e.lints :=
    Notes.expression ctx ts (some e) [] hgives e rfl
  exact ⟨e, hast, by rw [hwarnings, map_advice_remarks, hlints]⟩

/-- The remarks on a valid rule are a function of its meaning.  Their levels, messages and
suggestions are those that a walk through the expression from left to right finds, and texts
with equal expressions have the same ones, whatever their limits. -/
theorem warnings_of_isValid :
    (∀ (l : Limits) (source : String), (check l source).isValid = true →
      ∃ e, (check l source).ast = some e ∧
        (check l source).warnings.map Diagnostic.advice = e.lints.map Lint.advice) ∧
    ∀ (l l' : Limits) (source source' : String) (e e' : Expr),
      (check l source).isValid = true → (check l' source').isValid = true →
      (check l source).ast = some e → (check l' source').ast = some e' → (e == e') = true →
        (check l source).warnings.map Diagnostic.advice =
          (check l' source').warnings.map Diagnostic.advice := by
  refine ⟨fun l source hvalid => advice_warnings_of_isValid hvalid, ?_⟩
  intro l l' source source' e e' hvalid hvalid' hast hast' hsame
  obtain ⟨a, ha, hwarnings⟩ := advice_warnings_of_isValid hvalid
  obtain ⟨a', ha', hwarnings'⟩ := advice_warnings_of_isValid hvalid'
  obtain rfl : a = e := Option.some.inj (ha.symm.trans hast)
  obtain rfl : a' = e' := Option.some.inj (ha'.symm.trans hast')
  rw [hwarnings, hwarnings', Expr.lints_eq_of_beq hsame]

/-- A rule with remarks of all kinds, and another text of the same expression. -/
theorem warnings_of_isValid_all_kinds :
    let source := "trace.count(db) == 2000 or not trace.has(log).where(a.amount == 1).where(x)" ++
      " and trace.count(a.b) > trace.count(web)"
    let source' := "trace.count(db)==02000 or not trace.has(log)\n.where(a.amount == 1.0).where(x)" ++
      " and trace.count(a.b) > trace.count(web) // no remarks here"
    ∃ e e', (check {} source).isValid = true ∧ (check {} source').isValid = true ∧
      (check {} source).ast = some e ∧ (check {} source').ast = some e' ∧ (e == e') = true ∧
      (check {} source).warnings.map Diagnostic.advice =
        ([.unqualifiedName "db", .highCount, .exactCount, .alternatives, .unqualifiedName "log",
          .exactAmount, .unqualifiedName "web"] : List Lint).map Lint.advice ∧
      (check {} source).warnings.map Diagnostic.advice =
        (check {} source').warnings.map Diagnostic.advice := by
  intro source source'
  obtain ⟨hvalid, hvalid', hlints, hsame⟩ :
      (check {} source).isValid = true ∧ (check {} source').isValid = true ∧
        (check {} source).ast.map Expr.lints =
          some [.unqualifiedName "db", .highCount, .exactCount, .alternatives,
            .unqualifiedName "log", .exactAmount, .unqualifiedName "web"] ∧
        ((check {} source).ast == (check {} source').ast) = true := by
    decide +kernel
  obtain ⟨e, hast, hwarnings⟩ := warnings_of_isValid.1 {} source hvalid
  obtain ⟨e', hast', -⟩ := warnings_of_isValid.1 {} source' hvalid'
  rw [hast] at hlints
  rw [hast, hast'] at hsame
  refine ⟨e, e', hvalid, hvalid', hast, hast', hsame, ?_, ?_⟩
  · rw [hwarnings, Option.some.inj hlints]
  · exact warnings_of_isValid.2 {} {} source source' e e' hvalid hvalid' hast hast' hsame

end TraceCheck
