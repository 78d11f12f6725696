import TraceCheck.Proofs.Grammar.Messages
import TraceCheck.Proofs.Grammar.Timing

/-!
# What findings are about

Reading looks at the tokens that it is given and at the one behind them.  So whatever holds
of these tokens holds of the places of its findings and of the words in the names that
remarks quote; an error quotes a token in the form in which messages name it.  Each
elementary step keeps to the tokens that it is given, and sequences of such steps do.
-/

namespace TraceCheck

open TraceCheck.Reading

/-- The parts of a name are words with a property. -/
structure Reading.DottedName.IsOf (P : Token → Prop) (n : DottedName) : Prop where
  first : P n.first ∧ n.first.kind.isWord = true
  segments : ∀ t ∈ n.segments, P t ∧ t.kind.isWord = true

namespace Finding

/-- The token at which a finding is noted. -/
def place : Finding → Token
  | .error _ t => t
  | .lint _ t _ => t

/-- What a finding quotes. -/
def quoted? : Finding → Option String
  | .error e _ => e.quoted?
  | .lint l _ _ => l.quoted?

/-- A finding is noted at a token with a property, and it quotes no more than some token or
a name of words with the property. -/
structure IsAbout (P : Token → Prop) (f : Finding) : Prop where
  place : P f.place
  quoted : ∀ s ∈ f.quoted?,
    (∃ t : Token, s = t.describe) ∨ ∃ n : DottedName, n.IsOf P ∧ s = n.text

end Finding

namespace Reading

variable {α β : Type} {P : Token → Prop}

/-- A step noted only what is about tokens with a property, left only such tokens, and its
result is as it should be. -/
structure Outcome.KeepsTo (P : Token → Prop) (Q : α → Prop) (out : Outcome α) : Prop where
  findings : ∀ f ∈ out.findings, f.IsAbout P
  rest : ∀ t ∈ out.rest, P t
  result : ∀ a, out.result = .ok a → Q a

/-- A step keeps to the tokens that it is given, and its results have a property. -/
def Step.KeepsTo (P : Token → Prop) (Q : α → Prop) (p : Step α) : Prop :=
  ∀ ctx ts, P ctx.stop → (∀ t ∈ ts, P t) → (p ctx ts).KeepsTo P Q

/-- A step keeps to the tokens that it is given, whatever its result. -/
abbrev Step.Keeps (P : Token → Prop) (p : Step α) : Prop :=
  p.KeepsTo P fun _ => True

/-! ## Elementary steps -/

/-- A step that notes nothing. -/
theorem Outcome.keepsTo_of_silent {Q : α → Prop} {ts : List Token} {result : Except Abort α}
    (hts : ∀ t ∈ ts, P t) (hresult : ∀ a, result = .ok a → Q a) :
    (Outcome.mk [] ts result).KeepsTo P Q :=
  ⟨List.forall_mem_nil _, hts, hresult⟩

theorem KeepsTo.pure {Q : α → Prop} {a : α} (ha : Q a) : (pure a : Step α).KeepsTo P Q := by
  intro ctx ts _ hts
  refine Outcome.keepsTo_of_silent hts fun b hb => ?_
  injection hb with hb
  exact hb ▸ ha

theorem KeepsTo.bind {Q : α → Prop} {R : β → Prop} {p : Step α} {f : α → Step β}
    (hp : p.KeepsTo P Q) (hf : ∀ a, Q a → (f a).KeepsTo P R) : (p >>= f).KeepsTo P R := by
  intro ctx ts hstop hts
  change (Step.bind p f ctx ts).KeepsTo P R
  have hfirst := hp ctx ts hstop hts
  unfold Step.bind
  cases hres : p ctx ts with
  | mk found mid result =>
      rw [hres] at hfirst
      cases result with
      | ok a =>
          have hnext := hf a (hfirst.result a rfl) ctx mid hstop hfirst.rest
          exact ⟨List.forall_mem_append.mpr ⟨hfirst.findings, hnext.findings⟩, hnext.rest,
            hnext.result⟩
      | error e => exact ⟨hfirst.findings, hfirst.rest, nofun⟩

/-- What holds of the results can be left out. -/
theorem KeepsTo.forget {Q : α → Prop} {p : Step α} (hp : p.KeepsTo P Q) : p.Keeps P := by
  intro ctx ts hstop hts
  have hout := hp ctx ts hstop hts
  exact ⟨hout.findings, hout.rest, fun _ _ => trivial⟩

theorem Keeps.pure (a : α) : (pure a : Step α).Keeps P :=
  KeepsTo.pure trivial

theorem Keeps.bind {Q : β → Prop} {p : Step α} {f : α → Step β} (hp : p.Keeps P)
    (hf : ∀ a, (f a).KeepsTo P Q) : (p >>= f).KeepsTo P Q :=
  KeepsTo.bind hp fun a _ => hf a

theorem Keeps.bind_pure {p : Step α} (f : α → β) (hp : p.Keeps P) :
    (p >>= fun a => Pure.pure (f a)).Keeps P :=
  Keeps.bind hp fun a => Keeps.pure (f a)

theorem KeepsTo.ite {Q : α → Prop} {c : Prop} [Decidable c] {p q : Step α}
    (hp : p.KeepsTo P Q) (hq : q.KeepsTo P Q) : (if c then p else q).KeepsTo P Q := by
  split
  · exact hp
  · exact hq

theorem head_of_forall {ts : List Token} {stop : Token} (hstop : P stop) (hts : ∀ t ∈ ts, P t) :
    P (ts.headD stop) := by
  cases ts with
  | nil => exact hstop
  | cons t ts => exact hts t List.mem_cons_self

theorem KeepsTo.peek : peek.KeepsTo P P := by
  intro ctx ts hstop hts
  refine Outcome.keepsTo_of_silent hts fun t ht => ?_
  injection ht with ht
  exact ht ▸ head_of_forall hstop hts

theorem Keeps.pass : pass.Keeps P := fun _ _ _ hts =>
  Outcome.keepsTo_of_silent (fun t ht => hts t (List.mem_of_mem_tail ht)) fun _ _ => trivial

theorem KeepsTo.remaining : remaining.KeepsTo P fun ts => ∀ t ∈ ts, P t := by
  intro ctx ts _ hts
  refine Outcome.keepsTo_of_silent hts fun us hus => ?_
  injection hus with hus
  exact hus ▸ hts

theorem Keeps.goOn {ts : List Token} (hts : ∀ t ∈ ts, P t) : (goOn ts).Keeps P :=
  fun _ _ _ _ => Outcome.keepsTo_of_silent hts fun _ _ => trivial

theorem Keeps.size : size.Keeps P := fun _ _ _ hts =>
  Outcome.keepsTo_of_silent hts fun _ _ => trivial

/-- Remarks at a token that quote no more than a name. -/
theorem Keeps.remark {ls : List Lint} {first : Token} (hfirst : P first)
    (hls : ∀ l ∈ ls, ∀ s ∈ l.quoted?, ∃ n : DottedName, n.IsOf P ∧ s = n.text) (length : Nat) :
    (remark ls first length).Keeps P := by
  intro ctx ts _ hts
  refine ⟨fun f hf => ?_, hts, fun _ _ => trivial⟩
  obtain ⟨l, hl, rfl⟩ := List.mem_map.mp hf
  exact ⟨hfirst, fun s hs => .inr (hls l hl s hs)⟩

/-- Remarks at a token that quote nothing. -/
theorem Keeps.comment {ls : List Lint} {first : Token} (hfirst : P first)
    (hls : ∀ l ∈ ls, l.quoted? = none) (length : Nat) :
    (Reading.remark ls first length).Keeps P := by
  refine Keeps.remark hfirst (fun l hl s hs => ?_) length
  rw [hls l hl] at hs
  exact absurd hs (Option.not_mem_none s)

theorem isAbout_error_of_quotes {e : ParseError} {t : Token} (ht : P t)
    (he : e.quoted? = some t.describe) : (Finding.error e t).IsAbout P := by
  refine ⟨ht, fun s hs => .inl ⟨t, ?_⟩⟩
  change s ∈ e.quoted? at hs
  rw [he] at hs
  exact (Option.mem_some.mp hs).symm

theorem isAbout_error_of_quotes_none {e : ParseError} {t : Token} (ht : P t)
    (he : e.quoted? = none) : (Finding.error e t).IsAbout P := by
  refine ⟨ht, fun s hs => ?_⟩
  change s ∈ e.quoted? at hs
  rw [he] at hs
  exact absurd hs (Option.not_mem_none s)

theorem KeepsTo.fail {Q : α → Prop} {e : ParseError} {t : Token}
    (he : (Finding.error e t).IsAbout P) : (fail e t : Step α).KeepsTo P Q := fun _ _ _ hts =>
  ⟨List.forall_mem_singleton.mpr he, hts, nofun⟩

/-- An error at a token that quotes nothing. -/
theorem KeepsTo.refuse {Q : α → Prop} {e : ParseError} {t : Token} (ht : P t)
    (he : e.quoted? = none) : (Reading.fail e t : Step α).KeepsTo P Q :=
  KeepsTo.fail (isAbout_error_of_quotes_none ht he)

theorem KeepsTo.unexpected {Q : α → Prop} (what : Expectation) :
    (unexpected what : Step α).KeepsTo P Q :=
  KeepsTo.bind KeepsTo.peek fun _ ht => KeepsTo.fail (isAbout_error_of_quotes ht rfl)

theorem Keeps.expect (kind : TokenKind) (what : Expectation) : (expect kind what).Keeps P :=
  KeepsTo.bind KeepsTo.peek fun _ _ => KeepsTo.ite Keeps.pass (KeepsTo.unexpected _)

theorem Keeps.enter (taken : Nat) : (enter taken).Keeps P := by
  intro ctx ts hstop hts
  unfold Reading.enter
  split
  · have herror := isAbout_error_of_quotes_none (e := .tooDeep ctx.maxDepth)
      (head_of_forall hstop hts) rfl
    exact ⟨List.forall_mem_singleton.mpr herror, hts, nofun⟩
  · exact Outcome.keepsTo_of_silent hts fun _ _ => trivial

/-! ## Names -/

/-- The parts of a name are words among the tokens, and the others are still there. -/
theorem splitSegments_forall {ts : List Token} (hts : ∀ t ∈ ts, P t) :
    (∀ t ∈ (DottedName.splitSegments ts).1, P t ∧ t.kind.isWord = true) ∧
      ∀ t ∈ (DottedName.splitSegments ts).2, P t := by
  induction ts using DottedName.splitSegments.induct with
  | case1 dot word rest hword words rest' heq ih =>
      obtain ⟨-, hthis, htail⟩ : P dot ∧ P word ∧ ∀ t ∈ rest, P t := by
        rwa [List.forall_mem_cons, List.forall_mem_cons] at hts
      rw [DottedName.splitSegments, if_pos hword]
      exact ⟨List.forall_mem_cons.mpr ⟨⟨hthis, hword.2⟩, (ih htail).1⟩, (ih htail).2⟩
  | case2 dot word rest hword =>
      rw [DottedName.splitSegments, if_neg hword]
      exact ⟨List.forall_mem_nil _, hts⟩
  | case3 ts h =>
      rw [DottedName.splitSegments]
      · exact ⟨List.forall_mem_nil _, hts⟩
      · exact h

theorem KeepsTo.dottedName (what : Expectation) :
    (dottedName what).KeepsTo P (DottedName.IsOf P) := by
  apply KeepsTo.bind KeepsTo.peek
  intro first hfirst
  by_cases hword : first.kind.isWord = true
  · rw [if_neg (by simp [hword])]
    apply Keeps.bind Keeps.pass
    intro _
    apply KeepsTo.bind KeepsTo.remaining
    intro ts hts
    obtain ⟨hsegments, hrest⟩ := splitSegments_forall hts
    apply Keeps.bind (Keeps.goOn hrest)
    intro _
    exact KeepsTo.pure ⟨⟨hfirst, hword⟩, hsegments⟩
  · rw [if_pos (by simp [hword])]
    exact KeepsTo.unexpected _

theorem Keeps.spanName : spanName.Keeps P := by
  apply KeepsTo.bind (KeepsTo.dottedName _)
  intro n hn
  refine Keeps.bind_pure _ (Keeps.remark hn.first.1 (fun l hl s hs => ⟨n, hn, ?_⟩) _)
  unfold Lint.ofSpanName at hl
  split at hl
  · exact absurd hl List.not_mem_nil
  · rw [List.mem_singleton.mp hl] at hs
    exact (Option.mem_some.mp hs).symm

theorem Keeps.spanArgument : spanArgument.Keeps P := by
  apply Keeps.bind (Keeps.expect _ _)
  intro _
  apply Keeps.bind Keeps.spanName
  intro n
  exact Keeps.bind_pure _ (Keeps.expect _ _)

/-! ## Values and checks -/

theorem quoted?_of_mem_ofComparison {name : String} {op : Comparator} {x : Literal} {l : Lint}
    (hl : l ∈ Lint.ofComparison name op x) : l.quoted? = none := by
  unfold Lint.ofComparison at hl
  split at hl
  · split at hl
    · rw [List.mem_singleton.mp hl]
      rfl
    · exact absurd hl List.not_mem_nil
  · exact absurd hl List.not_mem_nil

theorem quoted?_of_mem_ofCount {op : Comparator} {n : Nat} {l : Lint}
    (hl : l ∈ Lint.ofCount op n) : l.quoted? = none := by
  unfold Lint.ofCount at hl
  rcases List.mem_append.mp hl with hl | hl
  · split at hl
    · rw [List.mem_singleton.mp hl]
      rfl
    · exact absurd hl List.not_mem_nil
  · split at hl
    · rw [List.mem_singleton.mp hl]
      rfl
    · exact absurd hl List.not_mem_nil

theorem quoted?_of_mem_ofOperator {op : LogicalOp} {l : Lint} (hl : l ∈ Lint.ofOperator op) :
    l.quoted? = none := by
  cases op with
  | and => exact absurd hl List.not_mem_nil
  | or =>
      rw [List.mem_singleton.mp hl]
      rfl

theorem Keeps.comparator : comparator.Keeps P := by
  apply KeepsTo.bind KeepsTo.peek
  intro t _
  split
  · exact Keeps.bind_pure _ Keeps.pass
  · exact KeepsTo.unexpected _

theorem Keeps.scalar : scalar.Keeps P := by
  apply KeepsTo.bind KeepsTo.peek
  intro t ht
  split
  · exact Keeps.bind_pure _ Keeps.pass
  · exact Keeps.bind_pure _ Keeps.pass
  · exact Keeps.bind_pure _ Keeps.pass
  · split
    · exact Keeps.bind_pure _ Keeps.pass
    · exact KeepsTo.unexpected _
  · exact KeepsTo.refuse ht rfl
  · exact KeepsTo.unexpected _

theorem Keeps.listItems (fuel : Nat) : (listItems fuel).Keeps P := by
  induction fuel with
  | zero => exact KeepsTo.unexpected _
  | succ fuel ih =>
      apply Keeps.bind Keeps.scalar
      intro x
      apply KeepsTo.bind KeepsTo.peek
      intro t _
      split
      · apply Keeps.bind Keeps.pass
        intro _
        exact Keeps.bind_pure _ ih
      · exact Keeps.bind_pure _ Keeps.pass
      · exact KeepsTo.unexpected _

theorem Keeps.listLiteral : listLiteral.Keeps P := by
  apply KeepsTo.bind KeepsTo.peek
  intro t _
  apply KeepsTo.ite
  · exact Keeps.bind_pure _ Keeps.pass
  · apply Keeps.bind Keeps.size
    intro n
    exact Keeps.bind_pure _ (Keeps.listItems n)

theorem Keeps.patternLiteral : patternLiteral.Keeps P := by
  apply KeepsTo.bind KeepsTo.peek
  intro t ht
  apply Keeps.bind Keeps.pass
  intro _
  split
  · exact Keeps.pure _
  · exact KeepsTo.refuse ht rfl

theorem Keeps.value (op : Comparator) : (value op).Keeps P := by
  apply KeepsTo.bind KeepsTo.peek
  intro t ht
  apply KeepsTo.ite Keeps.patternLiteral
  apply KeepsTo.ite
  · apply KeepsTo.ite _ (KeepsTo.refuse ht rfl)
    apply Keeps.bind Keeps.pass
    intro _
    exact Keeps.listLiteral
  · apply Keeps.bind Keeps.scalar
    intro x
    split
    · exact Keeps.pure _
    · exact KeepsTo.ite (KeepsTo.refuse ht rfl) (Keeps.pure _)

theorem Keeps.negation : negation.Keeps P := by
  apply Keeps.bind (KeepsTo.forget KeepsTo.remaining)
  intro ts
  apply KeepsTo.bind KeepsTo.peek
  intro t _
  exact KeepsTo.ite (Keeps.bind_pure _ Keeps.pass) (Keeps.pure _)

theorem Keeps.attributeTest {name : DottedName} (hname : name.IsOf P) :
    (attributeTest name).Keeps P := by
  apply KeepsTo.bind KeepsTo.peek
  intro t _
  apply KeepsTo.ite (Keeps.pure _)
  apply Keeps.bind Keeps.comparator
  intro op
  apply Keeps.bind (Keeps.value op)
  intro x
  exact Keeps.bind_pure _ (Keeps.comment hname.first.1 (fun _ => quoted?_of_mem_ofComparison) _)

theorem Keeps.clause : clause.Keeps P := by
  apply Keeps.bind (Keeps.expect _ _)
  intro _
  apply Keeps.bind Keeps.negation
  intro negated
  apply KeepsTo.bind (KeepsTo.dottedName _)
  intro name hname
  apply Keeps.bind (Keeps.attributeTest hname)
  intro test
  exact Keeps.bind_pure _ (Keeps.expect _ _)

theorem Keeps.clauses (fuel : Nat) : (clauses fuel).Keeps P := by
  induction fuel with
  | zero => exact Keeps.pure _
  | succ fuel ih =>
      apply KeepsTo.bind KeepsTo.peek
      intro t _
      apply KeepsTo.ite _ (Keeps.pure _)
      apply Keeps.bind Keeps.pass
      intro _
      apply Keeps.bind (Keeps.expect _ _)
      intro _
      apply Keeps.bind Keeps.clause
      intro c
      exact Keeps.bind_pure _ ih

theorem Keeps.countOperand (op : Comparator) : (countOperand op).Keeps P := by
  apply KeepsTo.bind KeepsTo.peek
  intro t ht
  split
  · apply Keeps.bind Keeps.pass
    intro _
    split
    · exact Keeps.bind_pure _ (Keeps.comment ht (fun _ => quoted?_of_mem_ofCount) _)
    · exact KeepsTo.fail (isAbout_error_of_quotes ht rfl)
  · apply Keeps.bind Keeps.pass
    intro _
    apply Keeps.bind (Keeps.expect _ _)
    intro _
    apply Keeps.bind (Keeps.expect _ _)
    intro _
    exact Keeps.bind_pure _ Keeps.spanArgument
  · exact KeepsTo.fail (isAbout_error_of_quotes ht rfl)

theorem Keeps.spanCheck : spanCheck.Keeps P := by
  apply Keeps.bind (Keeps.expect _ _)
  intro _
  apply Keeps.bind (Keeps.expect _ _)
  intro _
  apply KeepsTo.bind KeepsTo.peek
  intro t _
  split
  · apply Keeps.bind Keeps.pass
    intro _
    apply Keeps.bind Keeps.spanArgument
    intro name
    apply Keeps.bind Keeps.size
    intro n
    exact Keeps.bind_pure _ (Keeps.clauses n)
  · apply Keeps.bind Keeps.pass
    intro _
    apply Keeps.bind Keeps.spanArgument
    intro name
    apply KeepsTo.bind KeepsTo.peek
    intro t ht
    apply Keeps.bind Keeps.comparator
    intro op
    apply KeepsTo.ite _ (KeepsTo.refuse ht rfl)
    exact Keeps.bind_pure _ (Keeps.countOperand op)
  · exact KeepsTo.unexpected _

/-! ## Expressions -/

theorem Keeps.term (fuel taken : Nat) : (term fuel taken).Keeps P := by
  induction fuel generalizing taken with
  | zero => exact KeepsTo.unexpected _
  | succ fuel ih =>
      rw [term_succ]
      apply KeepsTo.bind KeepsTo.peek
      intro t _
      apply KeepsTo.ite _ Keeps.spanCheck
      apply Keeps.bind Keeps.pass
      intro _
      apply Keeps.bind (Keeps.enter taken)
      intro _
      exact Keeps.bind_pure _ (ih (taken + 1))

theorem Keeps.attempt {p : Step α} (hp : p.Keeps P) : (attempt p).Keeps P := by
  intro ctx ts hstop hts
  have hout := hp ctx ts hstop hts
  unfold Reading.attempt
  cases hres : p ctx ts with
  | mk found mid result =>
      rw [hres] at hout
      cases result with
      | ok a => exact ⟨hout.findings, hout.rest, fun _ _ => trivial⟩
      | error e =>
          cases e with
          | failed =>
              have hskipped : ∀ t ∈ skipToOperator mid, P t := fun t ht =>
                hout.rest t ((List.dropWhile_suffix _).subset ht)
              exact ⟨hout.findings, hskipped, fun _ _ => trivial⟩
          | stopped => exact ⟨hout.findings, hout.rest, fun _ _ => trivial⟩
          | timedOut => exact ⟨hout.findings, hout.rest, fun _ _ => trivial⟩

theorem Keeps.chain (fuel taken : Nat) (left : Option Expr) :
    (chain fuel taken left).Keeps P := by
  induction fuel generalizing taken left with
  | zero => exact Keeps.pure _
  | succ fuel ih =>
      rw [chain_succ]
      apply KeepsTo.bind KeepsTo.peek
      intro t ht
      split
      · exact Keeps.pure _
      · apply Keeps.bind Keeps.pass
        intro _
        apply Keeps.bind (Keeps.comment ht (fun _ => quoted?_of_mem_ofOperator) _)
        intro _
        apply Keeps.bind (Keeps.enter taken)
        intro _
        apply Keeps.bind Keeps.size
        intro n
        apply Keeps.bind (Keeps.attempt (Keeps.term n (taken + 1)))
        intro right
        exact ih (taken + 1) _

theorem Keeps.expression : expression.Keeps P := by
  rw [expression_eq]
  apply Keeps.bind Keeps.size
  intro n
  apply Keeps.bind (Keeps.attempt (Keeps.term n 0))
  intro first
  apply Keeps.bind Keeps.size
  intro n
  exact Keeps.chain n 0 first

end Reading

/-! ## Verdicts -/

theorem Verdict.mem_of_mem_ofDiagnostics {ds : List Diagnostic} {ast : Option Expr}
    {d : Diagnostic} (h : d ∈ (ofDiagnostics ds ast).diagnostics) : d ∈ ds :=
  (List.mem_append.mp h).elim (fun h => (List.mem_filter.mp h).1) fun h => (List.mem_filter.mp h).1

/-- A diagnostic about tokens that have a property is an earlier one, or it is about the text
as a whole and quotes nothing, or it is about these tokens. -/
theorem exists_of_mem_checkTokens {P : Token → Prop} {l : Limits} {earlier : List Diagnostic}
    {tokens : List Token} (htokens : ∀ t ∈ tokens, P t) (hstop : P (stopToken tokens))
    {d : Diagnostic} (hd : d ∈ (checkTokens l earlier tokens).diagnostics) :
    d ∈ earlier ∨
      (∃ e : ParseError, e.quoted? = none ∧ d = .wholeInput e.message e.suggestion) ∨
      ∃ f : Finding, f.IsAbout P ∧ d = f.diagnostic := by
  have hbody : ∀ t ∈ tokens.takeWhile (·.kind ≠ .eof), P t := fun t ht =>
    htokens t ((List.takeWhile_prefix _).subset ht)
  rw [checkTokens_still] at hd
  dsimp only at hd
  split at hd
  · split at hd
    · exact .inr (.inl ⟨.empty, rfl,
        List.mem_singleton.mp (Verdict.mem_of_mem_ofDiagnostics hd)⟩)
    · exact .inl (Verdict.mem_of_mem_ofDiagnostics hd)
  split at hd
  · exact .inr (.inl ⟨.timeout l.maxParseTimeMs, rfl,
      List.mem_singleton.mp (Verdict.mem_of_mem_ofDiagnostics hd)⟩)
  · rcases List.mem_append.mp (Verdict.mem_of_mem_ofDiagnostics hd) with hd | hd
    · exact .inl hd
    · obtain ⟨f, hf, rfl⟩ := List.mem_map.mp hd
      have hout := fun size => Reading.Keeps.expression
        ⟨l.maxRecursionDepth, stopToken tokens, size⟩ _ hstop hbody
      refine .inr (.inr ⟨f, ?_, rfl⟩)
      rcases List.mem_append.mp hf with hf | hf
      · exact (hout _).findings f hf
      · split at hf
        · next t rest _ hrest =>
            rw [List.mem_singleton.mp hf]
            exact Reading.isAbout_error_of_quotes
              ((hout _).rest t (hrest ▸ List.mem_cons_self)) rfl
        · exact absurd hf List.not_mem_nil

/-- A diagnostic about the text of a rule is about its spelling or about the text as a whole,
or it is about its tokens. -/
theorem exists_of_mem_check {P : Token → Prop} {l : Limits} {source : String}
    (htokens : ∀ t ∈ (tokenize l source).tokens, P t)
    (hstop : P (stopToken (tokenize l source).tokens)) {d : Diagnostic}
    (hd : d ∈ (check l source).diagnostics) :
    d ∈ (tokenize l source).errors ∨
      (∃ e : ParseError, e.quoted? = none ∧ d = .wholeInput e.message e.suggestion) ∨
      ∃ f : Finding, f.IsAbout P ∧ d = f.diagnostic := by
  unfold check at hd
  dsimp only at hd
  split at hd
  · exact .inl (Verdict.mem_of_mem_ofDiagnostics hd)
  · exact exists_of_mem_checkTokens htokens hstop hd

end TraceCheck
