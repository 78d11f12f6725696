import TraceCheck.Proofs.Grammar.Messages
import TraceCheck.Proofs.Grammar.Reports
import TraceCheck.Proofs.Grammar.Step

/-!
# The blame for a failed term

A step of reading that has no result has one fault, and the fault blames a token that the
step has passed or the next one.  Errors that end the reading of a rule are told from
those behind which reading goes on with the next term.
-/

namespace TraceCheck

/-! ## Faults of terms -/

/-- Errors behind which nothing else of a rule is read. -/
def ParseError.endsReading : ParseError → Bool
  | .tooDeep _ | .trailing _ => true
  | _ => false

/-- A fault of reading a part of the tokens, in front of a next one.  It blames a token of
the part or the next one, and quotes the token that it blames. -/
structure Fault.Blames (f : Fault) (part : List Token) (next : Token) : Prop where
  place : f.place ∈ part ++ [next]
  quoted : ∀ s ∈ f.error.quoted?, s = f.place.describe
  notTrailing : ∀ found, f.error ≠ .trailing found

theorem Fault.Blames.append_left {f : Fault} {part : List Token} {next : Token}
    (h : f.Blames part next) (front : List Token) : f.Blames (front ++ part) next where
  place := by
    rw [List.append_assoc]
    exact List.mem_append_right _ h.place
  quoted := h.quoted
  notTrailing := h.notTrailing

theorem headD_mem (part rest : List Token) (stop : Token) :
    (part ++ rest).headD stop ∈ part ++ [rest.headD stop] := by
  cases part with
  | nil => exact List.mem_singleton_self _
  | cons t part => exact List.mem_cons_self

/-- A fault blames the same token when more tokens are passed. -/
theorem Fault.Blames.append_right {f : Fault} {part skipped left : List Token}
    {stop : Token} (h : f.Blames part ((skipped ++ left).headD stop)) :
    f.Blames (part ++ skipped) (left.headD stop) where
  place := by
    rcases List.mem_append.mp h.place with hpart | hnext
    · exact List.mem_append_left _ (List.mem_append_left _ hpart)
    · rw [List.mem_singleton.mp hnext, List.append_assoc]
      exact List.mem_append_right _ (headD_mem skipped left stop)
  quoted := h.quoted
  notTrailing := h.notTrailing

namespace Reading

variable {α β : Type} {ctx : Context} {ts left part : List Token}

/-! ## Accounts -/

/-- An outcome that has no result has one fault, which ends the reading of the rule exactly
when the outcome says so, and an outcome that has a result has none. -/
def Accounted (ctx : Context) (part : List Token) (out : Outcome α) : Prop :=
  match out.result with
  | .ok _ => faults out.findings = []
  | .error e => ∃ f, faults out.findings = [f] ∧ f.Blames part (out.rest.headD ctx.stop) ∧
    e = if f.error.endsReading then .stopped else .failed

/-- A step that is run when some of the tokens are left accounts for the part of all tokens
that is passed then. -/
def Accounts (p : Step α) (ctx : Context) (ts left : List Token) : Prop :=
  ∃ part, part ++ (p ctx left).rest = ts ∧ Accounted ctx part (p ctx left)

/-- A step accounts for the tokens that it passes. -/
def Step.Accountable (p : Step α) : Prop :=
  ∀ ctx ts, Accounts p ctx ts ts

theorem Accounts.append_left {p : Step α} (h : Accounts p ctx ts left) (front : List Token) :
    Accounts p ctx (front ++ ts) left := by
  obtain ⟨part, rfl, h⟩ := h
  refine ⟨front ++ part, List.append_assoc _ _ _, ?_⟩
  unfold Accounted at h ⊢
  split at h
  next => exact h
  next =>
    obtain ⟨f, hfaults, hblames, hends⟩ := h
    exact ⟨f, hfaults, hblames.append_left front, hends⟩

theorem Step.Accountable.behind {p : Step α} (h : p.Accountable) (htokens : part ++ left = ts) :
    Accounts p ctx ts left := by
  rw [← htokens]
  exact (h ctx left).append_left part

theorem Accounts.bind {p : Step α} {f : α → Step β} (hp : Accounts p ctx ts left)
    (hf : ∀ a part mid, part ++ mid = ts → Gives p ctx left a mid → Accounts (f a) ctx ts mid) :
    Accounts (p >>= f) ctx ts left := by
  obtain ⟨part, hpart, hp⟩ := hp
  unfold Accounts
  cases hres : p ctx left with
  | mk found mid result =>
      rw [hres] at hp hpart
      cases result with
      | ok a =>
          obtain ⟨part', htokens, hnext⟩ := hf a part mid hpart ⟨by rw [hres], by rw [hres]⟩
          have hnone : faults found = [] := hp
          rw [run_bind_of_ok hres f]
          refine ⟨part', htokens, ?_⟩
          unfold Accounted at hnext ⊢
          dsimp only
          rw [faults_append, hnone, List.nil_append]
          exact hnext
      | error e =>
          rw [run_bind_of_error hres f]
          exact ⟨part, hpart, hp⟩

theorem accounts_pure {a : α} (htokens : part ++ left = ts) :
    Accounts (pure a : Step α) ctx ts left :=
  ⟨part, htokens, rfl⟩

/-- Failing at the token that came next when some tokens were not yet passed. -/
theorem accounts_fail {e : ParseError} (htokens : part ++ left = ts)
    (hends : e.endsReading = false)
    (hquoted : ∀ s ∈ e.quoted?, s = (ts.headD ctx.stop).describe) :
    Accounts (fail e (ts.headD ctx.stop) : Step α) ctx ts left := by
  refine ⟨part, htokens, ⟨e, ts.headD ctx.stop⟩, rfl, ⟨?_, hquoted, ?_⟩, ?_⟩
  · rw [← htokens]
    exact headD_mem part left ctx.stop
  · rintro found rfl
    cases hends
  · rw [hends]
    rfl

/-! ## Elementary steps -/

namespace Step.Accountable

theorem pure (a : α) : (Pure.pure a : Step α).Accountable :=
  fun _ _ => ⟨[], rfl, rfl⟩

theorem bind {p : Step α} {f : α → Step β} (hp : p.Accountable) (hf : ∀ a, (f a).Accountable) :
    (p >>= f).Accountable := by
  intro ctx ts
  apply Accounts.bind (hp ctx ts)
  intro a part mid htokens _
  exact (hf a).behind htokens

theorem bind_pure {p : Step α} (f : α → β) (hp : p.Accountable) :
    (p >>= fun a => Pure.pure (f a)).Accountable :=
  bind hp fun a => pure (f a)

theorem ite {c : Prop} [Decidable c] {p q : Step α} (hp : p.Accountable) (hq : q.Accountable) :
    (if c then p else q).Accountable := by
  split
  · exact hp
  · exact hq

theorem peek : peek.Accountable :=
  fun _ _ => ⟨[], rfl, rfl⟩

theorem size : size.Accountable :=
  fun _ _ => ⟨[], rfl, rfl⟩

theorem remaining : remaining.Accountable :=
  fun _ _ => ⟨[], rfl, rfl⟩

theorem pass : pass.Accountable := by
  intro ctx ts
  cases ts with
  | nil => exact ⟨[], rfl, rfl⟩
  | cons t ts => exact ⟨[t], rfl, rfl⟩

theorem remark (ls : List Lint) (first : Token) (length : Nat) :
    (remark ls first length).Accountable :=
  fun _ _ => ⟨[], rfl, faults_lints ls first length⟩

/-- A step that looks at the next token may blame it later. -/
theorem peek_bind {f : Token → Step β}
    (hf : ∀ ctx ts, Accounts (f (ts.headD ctx.stop)) ctx ts ts) :
    (Reading.peek >>= f).Accountable := by
  intro ctx ts
  apply Accounts.bind (peek ctx ts)
  rintro t part mid - hgives
  obtain ⟨rfl, rfl⟩ : t = ts.headD ctx.stop ∧ ts = mid := by
    obtain ⟨ht, hmid⟩ := hgives
    injection ht with ht
    exact ⟨ht.symm, hmid⟩
  exact hf ctx ts

theorem enter (taken : Nat) : (enter taken).Accountable := by
  intro ctx ts
  unfold Accounts Reading.enter
  split
  · exact ⟨[], rfl, _, rfl, ⟨List.mem_singleton_self _, nofun, nofun⟩, rfl⟩
  · exact ⟨[], rfl, rfl⟩

theorem unexpected (what : Expectation) : (unexpected what : Step α).Accountable := by
  apply peek_bind
  intro ctx ts
  refine accounts_fail (List.nil_append ts) rfl ?_
  rintro s ⟨⟩
  rfl

theorem expect (kind : TokenKind) (what : Expectation) : (expect kind what).Accountable :=
  bind peek fun _ => ite pass (unexpected _)

end Step.Accountable

/-! ## Names and values -/

theorem exists_splitSegments_append (ts : List Token) :
    ∃ front, front ++ (DottedName.splitSegments ts).2 = ts := by
  fun_induction DottedName.splitSegments ts with
  | case1 dot word rest hname words rest' hrest ih =>
      obtain ⟨front, hfront⟩ := ih
      rw [hrest] at hfront
      exact ⟨dot :: word :: front, by rw [List.cons_append, List.cons_append, hfront]⟩
  | case2 dot word rest hname => exact ⟨[], rfl⟩
  | case3 ts => exact ⟨[], rfl⟩

namespace Step.Accountable

theorem dottedName (what : Expectation) : (dottedName what).Accountable := by
  apply bind peek
  intro first
  apply ite (unexpected _)
  apply bind pass
  intro _ ctx ts
  obtain ⟨front, hfront⟩ := exists_splitSegments_append ts
  exact ⟨front, hfront, rfl⟩

theorem spanName : spanName.Accountable := by
  apply bind (dottedName _)
  intro n
  exact bind_pure _ (remark _ _ _)

theorem spanArgument : spanArgument.Accountable := by
  apply bind (expect _ _)
  intro _
  apply bind spanName
  intro n
  exact bind_pure _ (expect _ _)

theorem comparator : comparator.Accountable := by
  apply bind peek
  intro t
  split
  · exact bind_pure _ pass
  · exact unexpected _

theorem scalar : scalar.Accountable := by
  apply peek_bind
  intro ctx ts
  split
  · exact bind_pure _ pass ctx ts
  · exact bind_pure _ pass ctx ts
  · exact bind_pure _ pass ctx ts
  · split
    · exact bind_pure _ pass ctx ts
    · exact unexpected _ ctx ts
  · exact accounts_fail (List.nil_append ts) rfl nofun
  · exact unexpected _ ctx ts

theorem listItems (fuel : Nat) : (listItems fuel).Accountable := by
  induction fuel with
  | zero => exact unexpected _
  | succ fuel ih =>
      apply bind scalar
      intro x
      apply bind peek
      intro t
      split
      · apply bind pass
        intro _
        exact bind_pure _ ih
      · exact bind_pure _ pass
      · exact unexpected _

theorem listLiteral : listLiteral.Accountable := by
  apply bind peek
  intro t
  apply ite
  · exact bind_pure _ pass
  · apply bind size
    intro n
    exact bind_pure _ (listItems n)

theorem patternLiteral : patternLiteral.Accountable := by
  apply peek_bind
  intro ctx ts
  apply Accounts.bind (pass ctx ts)
  intro _ part mid htokens _
  split
  · exact accounts_pure htokens
  · exact accounts_fail htokens rfl nofun

theorem value (op : Comparator) : (value op).Accountable := by
  apply peek_bind
  intro ctx ts
  split
  · exact patternLiteral ctx ts
  · split
    · split
      · exact bind pass (fun _ => listLiteral) ctx ts
      · exact accounts_fail (List.nil_append ts) rfl nofun
    · apply Accounts.bind (scalar ctx ts)
      intro x part mid htokens _
      split
      · exact accounts_pure htokens
      · split
        · exact accounts_fail htokens rfl nofun
        · exact accounts_pure htokens

end Step.Accountable

/-! ## Checks and terms -/

/-- Read what a check asks, behind `trace.`. -/
def spanTest : Step Expr := do
  match (← peek).kind with
  | .has =>
    pass
    let name ← spanArgument
    return .has name (← clauses (← size))
  | .count =>
    pass
    let name ← spanArgument
    let t ← peek
    let op ← comparator
    if op.isRelational then return .count name op (← countOperand op)
    else fail (.countOperator op) t
  | _ => unexpected .check

theorem spanCheck_eq :
    spanCheck = expect .trace .trace >>= fun _ => expect .dot .dot >>= fun _ => spanTest := rfl

namespace Step.Accountable

theorem negation : negation.Accountable := by
  apply bind remaining
  intro ts
  apply bind peek
  intro t
  exact ite (bind_pure _ pass) (pure _)

theorem attributeTest (name : DottedName) : (attributeTest name).Accountable := by
  apply bind peek
  intro t
  apply ite (pure _)
  apply bind comparator
  intro op
  apply bind (value op)
  intro x
  exact bind_pure _ (remark _ _ _)

theorem clause : clause.Accountable := by
  apply bind (expect _ _)
  intro _
  apply bind negation
  intro negated
  apply bind (dottedName _)
  intro name
  apply bind (attributeTest name)
  intro test
  exact bind_pure _ (expect _ _)

theorem clauses (fuel : Nat) : (clauses fuel).Accountable := by
  induction fuel with
  | zero => exact pure _
  | succ fuel ih =>
      apply bind peek
      intro t
      apply ite _ (pure _)
      apply bind pass
      intro _
      apply bind (expect _ _)
      intro _
      apply bind clause
      intro c
      exact bind_pure _ ih

theorem countOperand (op : Comparator) : (countOperand op).Accountable := by
  apply peek_bind
  intro ctx ts
  have hquoted : ∀ s ∈ (ParseError.countOperand (ts.headD ctx.stop).describe).quoted?,
      s = (ts.headD ctx.stop).describe := by
    rintro s ⟨⟩
    rfl
  split
  · apply Accounts.bind (pass ctx ts)
    intro _ part mid htokens _
    split
    · exact (bind_pure _ (remark _ _ _)).behind htokens
    · exact accounts_fail htokens rfl hquoted
  · refine bind pass (fun _ => ?_) ctx ts
    apply bind (expect _ _)
    intro _
    apply bind (expect _ _)
    intro _
    exact bind_pure _ spanArgument
  · exact accounts_fail (List.nil_append ts) rfl hquoted

/-- A count is blamed for a comparator that is read after the token was seen. -/
theorem countTest (name : String) : (do
    let t ← Reading.peek
    let op ← Reading.comparator
    if op.isRelational then return Expr.count name op (← Reading.countOperand op)
    else fail (.countOperator op) t).Accountable := by
  apply peek_bind
  intro ctx ts
  apply Accounts.bind (comparator ctx ts)
  intro op part mid htokens _
  split
  · exact (bind_pure _ (countOperand op)).behind htokens
  · exact accounts_fail htokens rfl nofun

theorem spanTest : spanTest.Accountable := by
  apply bind peek
  intro t
  split
  · apply bind pass
    intro _
    apply bind spanArgument
    intro name
    apply bind size
    intro n
    exact bind_pure _ (clauses n)
  · apply bind pass
    intro _
    apply bind spanArgument
    intro name
    exact countTest name
  · exact unexpected _

theorem spanCheck : spanCheck.Accountable := by
  rw [spanCheck_eq]
  apply bind (expect _ _)
  intro _
  apply bind (expect _ _)
  intro _
  exact spanTest

/-- A term accounts for the tokens that it passes. -/
theorem term (fuel taken : Nat) : (term fuel taken).Accountable := by
  induction fuel generalizing taken with
  | zero => exact unexpected _
  | succ fuel ih =>
      rw [term_succ]
      apply bind peek
      intro t
      apply ite _ spanCheck
      apply bind pass
      intro _
      apply bind (enter taken)
      intro _
      exact bind_pure _ (ih (taken + 1))

end Step.Accountable

end Reading

end TraceCheck
