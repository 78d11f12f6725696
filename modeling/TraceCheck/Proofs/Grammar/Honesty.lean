import TraceCheck.Proofs.Grammar.Composition

/-!
# Errors and results

A step of reading is honest when it has a result exactly if it noted no error.
The elementary steps are, and so are all steps that are composed of them.  Hence
a verdict without errors is one with an expression.
-/

namespace TraceCheck.Reading

variable {α β : Type}

/-- Whether findings are remarks only. -/
def noErrors (found : List Finding) : Bool :=
  found.all fun f => !f.isError

/-- A step has a result exactly when it noted no error. -/
def Step.Honest (p : Step α) : Prop :=
  ∀ ctx ts, (∃ a, (p ctx ts).result = .ok a) ↔ noErrors (p ctx ts).findings = true

theorem noErrors_append (xs ys : List Finding) :
    noErrors (xs ++ ys) = (noErrors xs && noErrors ys) :=
  List.all_append

theorem noErrors_lints (ls : List Lint) (first : Token) (length : Nat) :
    noErrors (ls.map fun l => .lint l first length) = true := by
  simp [noErrors, Finding.isError]

theorem Honest.pure (a : α) : (pure a : Step α).Honest :=
  fun _ _ => ⟨fun _ => rfl, fun _ => ⟨a, rfl⟩⟩

/-- Behind a step that yields something when it noted no error, what counts is what comes
next. -/
theorem Honest.bind_iff
    {p : Step α} {f : α → Step β} {Q : Except Abort β → Prop} (hp : p.Honest)
    (herror : ∀ e, ¬Q (.error e))
    (hf : ∀ a ctx ts, Q (f a ctx ts).result ↔ noErrors (f a ctx ts).findings = true)
    (ctx : Context) (ts : List Token) :
    Q ((p >>= f) ctx ts).result ↔ noErrors ((p >>= f) ctx ts).findings = true := by
  change Q (Step.bind p f ctx ts).result ↔ noErrors (Step.bind p f ctx ts).findings = true
  have hfirst := hp ctx ts
  unfold Step.bind
  cases hres : p ctx ts with
  | mk found mid result =>
      rw [hres] at hfirst
      cases result with
      | ok a =>
          have hclean : noErrors found = true := hfirst.mp ⟨a, rfl⟩
          simpa [noErrors_append, hclean] using hf a ctx mid
      | error e => simpa [herror e] using hfirst

theorem Honest.bind
    {p : Step α} {f : α → Step β}
    (hp : p.Honest) (hf : ∀ a, (f a).Honest) :
    (p >>= f).Honest :=
  Honest.bind_iff (Q := fun r => ∃ b, r = .ok b) hp (fun _ => nofun) hf

theorem Honest.peek : peek.Honest :=
  fun _ _ => ⟨fun _ => rfl, fun _ => ⟨_, rfl⟩⟩

theorem Honest.pass : pass.Honest :=
  fun _ _ => ⟨fun _ => rfl, fun _ => ⟨_, rfl⟩⟩

theorem Honest.remaining : remaining.Honest :=
  fun _ _ => ⟨fun _ => rfl, fun _ => ⟨_, rfl⟩⟩

theorem Honest.goOn (ts : List Token) : (goOn ts).Honest :=
  fun _ _ => ⟨fun _ => rfl, fun _ => ⟨_, rfl⟩⟩

theorem Honest.size : size.Honest :=
  fun _ _ => ⟨fun _ => rfl, fun _ => ⟨_, rfl⟩⟩

theorem Honest.remark (ls : List Lint) (first : Token) (length : Nat) :
    (remark ls first length).Honest :=
  fun _ _ => ⟨fun _ => noErrors_lints ls first length, fun _ => ⟨_, rfl⟩⟩

theorem Honest.fail (e : ParseError) (place : Token) :
    (fail e place : Step α).Honest := by
  intro ctx ts
  constructor
  · rintro ⟨a, h⟩
    cases h
  · intro h
    cases h

theorem Honest.enter (taken : Nat) : (enter taken).Honest := by
  intro ctx ts
  unfold Reading.enter
  split
  · constructor
    · rintro ⟨a, h⟩
      cases h
    · intro h
      cases h
  · exact ⟨fun _ => rfl, fun _ => ⟨_, rfl⟩⟩

/-- Whoever gives up has said why, and whoever goes on has noted nothing but remarks. -/
theorem Step.Composed.honest {p : Step α} (hp : p.Composed) : p.Honest := by
  induction hp with
  | pure a => exact Honest.pure a
  | bind _ _ ihp ihf => exact Honest.bind ihp ihf
  | peek => exact Honest.peek
  | pass => exact Honest.pass
  | remaining => exact Honest.remaining
  | goOn ts => exact Honest.goOn ts
  | size => exact Honest.size
  | remark ls first length => exact Honest.remark ls first length
  | fail e place => exact Honest.fail e place
  | enter taken => exact Honest.enter taken

theorem Honest.term (fuel taken : Nat) : (term fuel taken).Honest :=
  (Step.Composed.term fuel taken).honest

/-! ## Steps that may give up and go on -/

/-- A step that may go on without a result yields one exactly when it noted no
error. -/
def Step.HonestOption (p : Step (Option α)) : Prop :=
  ∀ ctx ts, (∃ a, (p ctx ts).result = .ok (some a)) ↔
    noErrors (p ctx ts).findings = true

/-- A step never yields anything. -/
def Step.Barren (p : Step (Option α)) : Prop :=
  ∀ ctx ts a, (p ctx ts).result ≠ .ok (some a)

theorem Honest.bind_option
    {p : Step α} {f : α → Step (Option β)}
    (hp : p.Honest) (hf : ∀ a, (f a).HonestOption) :
    (p >>= f).HonestOption :=
  Honest.bind_iff (Q := fun r => ∃ b, r = .ok (some b)) hp (fun _ => nofun) hf

theorem HonestOption.bind
    {p : Step (Option α)} {f : Option α → Step (Option β)}
    (hp : p.HonestOption) (hf : ∀ a, (f (some a)).HonestOption) (hnone : (f none).Barren) :
    (p >>= f).HonestOption := by
  intro ctx ts
  change (∃ b, (Step.bind p f ctx ts).result = .ok (some b)) ↔
    noErrors (Step.bind p f ctx ts).findings = true
  have hfirst := hp ctx ts
  unfold Step.bind
  cases hres : p ctx ts with
  | mk found mid result =>
      rw [hres] at hfirst
      cases result with
      | ok o =>
          cases o with
          | some a =>
              have hclean : noErrors found = true := hfirst.mp ⟨a, rfl⟩
              simpa [noErrors_append, hclean] using hf a ctx mid
          | none =>
              have hdirty : noErrors found = false := by simpa using hfirst
              simpa [noErrors_append, hdirty] using hnone ctx mid
      | error e => simpa using hfirst

theorem HonestOption.pure (a : α) : (pure (some a) : Step (Option α)).HonestOption :=
  fun _ _ => ⟨fun _ => rfl, fun _ => ⟨a, rfl⟩⟩

theorem Barren.pure : (pure none : Step (Option α)).Barren := by
  intro ctx ts a h
  injection h with h
  cases h

theorem Barren.bind
    {p : Step α} {f : α → Step (Option β)} (hf : ∀ a, (f a).Barren) :
    (p >>= f).Barren := by
  intro ctx ts b
  change (Step.bind p f ctx ts).result ≠ .ok (some b)
  unfold Step.bind
  cases p ctx ts with
  | mk found mid result =>
      cases result with
      | ok a => exact hf a ctx mid b
      | error e => nofun

theorem Honest.attempt {p : Step α} (hp : p.Honest) : (attempt p).HonestOption := by
  intro ctx ts
  have hfirst := hp ctx ts
  unfold Reading.attempt
  cases hres : p ctx ts with
  | mk found mid result =>
      rw [hres] at hfirst
      cases result with
      | ok a => simpa using hfirst
      | error e => cases e <;> simpa using hfirst

/-- Without a first term there is no chain. -/
theorem Barren.chain (fuel taken : Nat) : (chain fuel taken none).Barren := by
  induction fuel generalizing taken with
  | zero => exact Barren.pure
  | succ fuel ih =>
      rw [chain_succ]
      apply Barren.bind
      intro t
      split
      · exact Barren.pure
      · apply Barren.bind
        intro _
        apply Barren.bind
        intro _
        apply Barren.bind
        intro _
        apply Barren.bind
        intro n
        apply Barren.bind
        intro right
        exact ih (taken + 1)

theorem HonestOption.chain (fuel taken : Nat) (left : Expr) :
    (chain fuel taken (some left)).HonestOption := by
  induction fuel generalizing taken left with
  | zero => exact HonestOption.pure _
  | succ fuel ih =>
      rw [chain_succ]
      apply Honest.bind_option Honest.peek
      intro t
      split
      · exact HonestOption.pure _
      · apply Honest.bind_option Honest.pass
        intro _
        apply Honest.bind_option (Honest.remark _ _ _)
        intro _
        apply Honest.bind_option (Honest.enter taken)
        intro _
        apply Honest.bind_option Honest.size
        intro n
        apply HonestOption.bind (Honest.attempt (Honest.term n (taken + 1)))
        · intro right
          exact ih (taken + 1) _
        · exact Barren.chain fuel (taken + 1)

/-- Reading yields an expression exactly when it noted no error. -/
theorem HonestOption.expression : expression.HonestOption := by
  rw [expression_eq]
  apply Honest.bind_option Honest.size
  intro n
  apply HonestOption.bind (Honest.attempt (Honest.term n 0))
  · intro first
    apply Honest.bind_option Honest.size
    intro n
    exact HonestOption.chain n 0 first
  · apply Barren.bind
    intro n
    exact Barren.chain n 0

theorem Finding.isError_diagnostic (f : Finding) : f.diagnostic.isError = f.isError := by
  cases f with
  | error e place => rfl
  | lint l first length => cases l <;> rfl

theorem isValid_ofDiagnostics (found : List Finding) (ast : Option Expr) :
    (Verdict.ofDiagnostics (found.map Finding.diagnostic) ast).isValid = noErrors found := by
  rw [Bool.eq_iff_iff]
  simp [Verdict.ofDiagnostics, Verdict.isValid, noErrors, Finding.isError_diagnostic]

end TraceCheck.Reading
