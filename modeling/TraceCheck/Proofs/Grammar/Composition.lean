import TraceCheck.Expr.Parser

/-!
# How steps of reading are composed

Every step up to a term is put together from a few elementary ones.  What holds of
these, and of one step after another, therefore holds of all of them by one induction.
Names and values are read without the step that notes remarks.
-/

namespace TraceCheck.Reading

variable {α β : Type}

/-- A step is put together from elementary ones that note no remarks. -/
inductive Step.Plain : {α : Type} → Step α → Prop
  | pure {α : Type} (a : α) : (Pure.pure a : Step α).Plain
  | bind {α β : Type} {p : Step α} {f : α → Step β} :
      p.Plain → (∀ a, (f a).Plain) → (p >>= f).Plain
  | peek : peek.Plain
  | pass : pass.Plain
  | remaining : remaining.Plain
  | goOn (ts : List Token) : (goOn ts).Plain
  | size : size.Plain
  | fail {α : Type} (e : ParseError) (place : Token) : (fail e place : Step α).Plain
  | enter (taken : Nat) : (enter taken).Plain

/-- A step is put together from elementary ones. -/
inductive Step.Composed : {α : Type} → Step α → Prop
  | pure {α : Type} (a : α) : (Pure.pure a : Step α).Composed
  | bind {α β : Type} {p : Step α} {f : α → Step β} :
      p.Composed → (∀ a, (f a).Composed) → (p >>= f).Composed
  | peek : peek.Composed
  | pass : pass.Composed
  | remaining : remaining.Composed
  | goOn (ts : List Token) : (goOn ts).Composed
  | size : size.Composed
  | remark (ls : List Lint) (first : Token) (length : Nat) : (remark ls first length).Composed
  | fail {α : Type} (e : ParseError) (place : Token) : (fail e place : Step α).Composed
  | enter (taken : Nat) : (enter taken).Composed

/-! ## Steps without remarks -/

namespace Step.Plain

/-- Steps without remarks are put together like all others. -/
theorem composed {p : Step α} (hp : p.Plain) : p.Composed := by
  induction hp with
  | pure a => exact .pure a
  | bind _ _ ihp ihf => exact .bind ihp ihf
  | peek => exact .peek
  | pass => exact .pass
  | remaining => exact .remaining
  | goOn ts => exact .goOn ts
  | size => exact .size
  | fail e place => exact .fail e place
  | enter taken => exact .enter taken

theorem ite {c : Prop} [Decidable c] {p q : Step α} (hp : p.Plain) (hq : q.Plain) :
    (if c then p else q).Plain := by
  split
  · exact hp
  · exact hq

theorem bind_pure {p : Step α} (f : α → β) (hp : p.Plain) :
    (p >>= fun a => Pure.pure (f a)).Plain :=
  bind hp fun a => pure (f a)

theorem unexpected (what : Expectation) : (unexpected what : Step α).Plain :=
  bind peek fun _ => fail _ _

theorem expect (kind : TokenKind) (what : Expectation) : (expect kind what).Plain :=
  bind peek fun _ => ite pass (unexpected _)

theorem dottedName (what : Expectation) : (dottedName what).Plain := by
  apply bind peek
  intro first
  apply ite (unexpected _)
  apply bind pass
  intro _
  apply bind remaining
  intro ts
  exact bind_pure _ (goOn _)

theorem comparator : comparator.Plain := by
  apply bind peek
  intro t
  split
  · exact bind_pure _ pass
  · exact unexpected _

theorem scalar : scalar.Plain := by
  apply bind peek
  intro t
  split
  · exact bind_pure _ pass
  · exact bind_pure _ pass
  · exact bind_pure _ pass
  · split
    · exact bind_pure _ pass
    · exact unexpected _
  · exact fail _ _
  · exact unexpected _

theorem listItems (fuel : Nat) : (listItems fuel).Plain := by
  induction fuel with
  | zero => exact unexpected _
  | succ fuel ih =>
      apply bind scalar
      intro x
      apply bind peek
      intro t
      split
      · apply bind pass
        intro _
        exact bind_pure _ ih
      · exact bind_pure _ pass
      · exact unexpected _

theorem listLiteral : listLiteral.Plain := by
  apply bind peek
  intro t
  apply ite
  · exact bind_pure _ pass
  · apply bind size
    intro n
    exact bind_pure _ (listItems n)

theorem patternLiteral : patternLiteral.Plain := by
  apply bind peek
  intro t
  apply bind pass
  intro _
  split
  · exact pure _
  · exact fail _ _

theorem value (op : Comparator) : (value op).Plain := by
  apply bind peek
  intro t
  apply ite patternLiteral
  apply ite
  · apply ite _ (fail _ _)
    apply bind pass
    intro _
    exact listLiteral
  · apply bind scalar
    intro x
    split
    · exact pure _
    · exact ite (fail _ _) (pure _)

theorem negation : negation.Plain := by
  apply bind remaining
  intro ts
  apply bind peek
  intro t
  exact ite (bind_pure _ pass) (pure _)

end Step.Plain

/-! ## Checks and terms -/

namespace Step.Composed

theorem ite {c : Prop} [Decidable c] {p q : Step α} (hp : p.Composed) (hq : q.Composed) :
    (if c then p else q).Composed := by
  split
  · exact hp
  · exact hq

theorem bind_pure {p : Step α} (f : α → β) (hp : p.Composed) :
    (p >>= fun a => Pure.pure (f a)).Composed :=
  bind hp fun a => pure (f a)

theorem spanName : spanName.Composed := by
  apply bind (Plain.dottedName _).composed
  intro n
  exact bind_pure _ (remark _ _ _)

theorem spanArgument : spanArgument.Composed := by
  apply bind (Plain.expect _ _).composed
  intro _
  apply bind spanName
  intro n
  exact bind_pure _ (Plain.expect _ _).composed

theorem attributeTest (name : DottedName) : (attributeTest name).Composed := by
  apply bind peek
  intro t
  apply ite (pure _)
  apply bind Plain.comparator.composed
  intro op
  apply bind (Plain.value op).composed
  intro x
  exact bind_pure _ (remark _ _ _)

theorem clause : clause.Composed := by
  apply bind (Plain.expect _ _).composed
  intro _
  apply bind Plain.negation.composed
  intro negated
  apply bind (Plain.dottedName _).composed
  intro name
  apply bind (attributeTest name)
  intro test
  exact bind_pure _ (Plain.expect _ _).composed

theorem clauses (fuel : Nat) : (clauses fuel).Composed := by
  induction fuel with
  | zero => exact pure _
  | succ fuel ih =>
      apply bind peek
      intro t
      apply ite _ (pure _)
      apply bind pass
      intro _
      apply bind (Plain.expect _ _).composed
      intro _
      apply bind clause
      intro c
      exact bind_pure _ ih

theorem countOperand (op : Comparator) : (countOperand op).Composed := by
  apply bind peek
  intro t
  split
  · apply bind pass
    intro _
    split
    · exact bind_pure _ (remark _ _ _)
    · exact fail _ _
  · apply bind pass
    intro _
    apply bind (Plain.expect _ _).composed
    intro _
    apply bind (Plain.expect _ _).composed
    intro _
    exact bind_pure _ spanArgument
  · exact fail _ _

theorem spanCheck : spanCheck.Composed := by
  apply bind (Plain.expect _ _).composed
  intro _
  apply bind (Plain.expect _ _).composed
  intro _
  apply bind peek
  intro t
  split
  · apply bind pass
    intro _
    apply bind spanArgument
    intro name
    apply bind size
    intro n
    exact bind_pure _ (clauses n)
  · apply bind pass
    intro _
    apply bind spanArgument
    intro name
    apply bind peek
    intro t
    apply bind Plain.comparator.composed
    intro op
    apply ite _ (fail _ _)
    exact bind_pure _ (countOperand op)
  · exact (Plain.unexpected _).composed

theorem term (fuel taken : Nat) : (term fuel taken).Composed := by
  induction fuel generalizing taken with
  | zero => exact (Plain.unexpected _).composed
  | succ fuel ih =>
      rw [term_succ]
      apply bind peek
      intro t
      apply ite _ spanCheck
      apply bind pass
      intro _
      apply bind (enter taken)
      intro _
      exact bind_pure _ (ih (taken + 1))

end Step.Composed

/-! ## Chains -/

/-- A step is put together from elementary ones and attempts at steps. -/
inductive Step.Recovering : {α : Type} → Step α → Prop
  | composed {α : Type} {p : Step α} : p.Composed → p.Recovering
  | bind {α β : Type} {p : Step α} {f : α → Step β} :
      p.Recovering → (∀ a, (f a).Recovering) → (p >>= f).Recovering
  | attempt {α : Type} {p : Step α} : p.Composed → (attempt p).Recovering

namespace Step.Recovering

theorem chain (fuel taken : Nat) (left : Option Expr) : (chain fuel taken left).Recovering := by
  induction fuel generalizing taken left with
  | zero => exact composed (.pure _)
  | succ fuel ih =>
      rw [chain_succ]
      apply bind (composed .peek)
      intro t
      split
      · exact composed (.pure _)
      · apply bind (composed .pass)
        intro _
        apply bind (composed (.remark _ _ _))
        intro _
        apply bind (composed (.enter taken))
        intro _
        apply bind (composed .size)
        intro n
        apply bind (attempt (.term n (taken + 1)))
        intro right
        exact ih (taken + 1) _

theorem expression : expression.Recovering := by
  rw [expression_eq]
  apply bind (composed .size)
  intro n
  apply bind (attempt (.term n 0))
  intro first
  apply bind (composed .size)
  intro n
  exact chain n 0 first

end Step.Recovering

end TraceCheck.Reading
