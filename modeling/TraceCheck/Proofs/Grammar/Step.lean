import TraceCheck.Expr.Parser

/-!
# Steps of reading

`Gives` says what a step yields and which tokens it leaves, and forgets what
the step noted.  Each elementary step has one equivalence that says when it
gives what, and a sequence of steps gives what its parts give in turn.
-/

namespace TraceCheck.Reading

variable {α β : Type} {ctx : Context} {ts rest : List Token}

/-! ## The result of a step -/

/-- A step gives a result and leaves some tokens. -/
def Gives (p : Step α) (ctx : Context) (ts : List Token) (a : α)
    (rest : List Token) : Prop :=
  (p ctx ts).result = .ok a ∧ (p ctx ts).rest = rest

theorem gives_pure {a b : α} :
    Gives (pure a : Step α) ctx ts b rest ↔ b = a ∧ rest = ts := by
  constructor
  · rintro ⟨hres, hrest⟩
    injection hres with hres
    exact ⟨hres.symm, hrest.symm⟩
  · rintro ⟨rfl, rfl⟩
    exact ⟨rfl, rfl⟩

theorem gives_bind
    {p : Step α} {f : α → Step β} {b : β} :
    Gives (p >>= f) ctx ts b rest ↔
      ∃ a mid, Gives p ctx ts a mid ∧ Gives (f a) ctx mid b rest := by
  change Gives (Step.bind p f) ctx ts b rest ↔ _
  unfold Gives Step.bind
  cases hp : p ctx ts with
  | mk found mid result =>
      cases result with
      | ok a =>
          constructor
          · rintro ⟨hres, hrest⟩
            exact ⟨a, mid, ⟨rfl, rfl⟩, hres, hrest⟩
          · rintro ⟨a', mid', ⟨ha, rfl⟩, hres, hrest⟩
            injection ha with ha
            subst ha
            exact ⟨hres, hrest⟩
      | error e => simp

theorem gives_pass {u : Unit} :
    Gives pass ctx ts u rest ↔ rest = ts.tail := by
  simp [Gives, pass, eq_comm]

/-! ## Steps one after the other -/

theorem run_bind_of_ok {p : Step α} {found : List Finding} {mid : List Token} {a : α}
    (hp : p ctx ts = ⟨found, mid, .ok a⟩) (f : α → Step β) :
    (p >>= f) ctx ts =
      ⟨found ++ (f a ctx mid).findings, (f a ctx mid).rest, (f a ctx mid).result⟩ := by
  change Step.bind p f ctx ts = _
  rw [Step.bind, hp]

theorem run_bind_of_error {p : Step α} {found : List Finding} {mid : List Token} {e : Abort}
    (hp : p ctx ts = ⟨found, mid, .error e⟩) (f : α → Step β) :
    (p >>= f) ctx ts = ⟨found, mid, .error e⟩ := by
  change Step.bind p f ctx ts = _
  rw [Step.bind, hp]

theorem bind_pure_run (p : Step α) : (p >>= fun a => pure a) = p := by
  funext ctx ts
  cases hp : p ctx ts with
  | mk found mid result =>
      cases result with
      | ok a =>
          rw [run_bind_of_ok hp]
          exact congrArg (Outcome.mk · mid (.ok a)) (List.append_nil found)
      | error e => rw [run_bind_of_error hp]

theorem pure_bind_run (a : α) (f : α → Step β) : (pure a : Step α) >>= f = f a := by
  funext ctx ts
  exact run_bind_of_ok (show (pure a : Step α) ctx ts = ⟨[], ts, .ok a⟩ from rfl) f

theorem bind_assoc_run {γ : Type} (p : Step α) (f : α → Step β) (g : β → Step γ) :
    ((p >>= f) >>= g) = p >>= fun a => f a >>= g := by
  funext ctx ts
  cases hp : p ctx ts with
  | mk found mid result =>
      cases result with
      | ok a =>
          rw [run_bind_of_ok hp]
          cases hf : f a ctx mid with
          | mk found' mid' result' =>
              have hpf : (p >>= f) ctx ts = ⟨found ++ found', mid', result'⟩ := by
                rw [run_bind_of_ok hp, hf]
              cases result' with
              | ok b => rw [run_bind_of_ok hpf, run_bind_of_ok hf, List.append_assoc]
              | error e => rw [run_bind_of_error hpf, run_bind_of_error hf]
      | error e =>
          have hpf : (p >>= f) ctx ts = ⟨found, mid, .error e⟩ := run_bind_of_error hp f
          rw [run_bind_of_error hp, run_bind_of_error hpf]

instance : LawfulMonad Step :=
  LawfulMonad.mk' Step bind_pure_run pure_bind_run bind_assoc_run

theorem run_peek_bind (f : Token → Step β) (ctx : Context) (ts : List Token) :
    (peek >>= f) ctx ts = f (ts.headD ctx.stop) ctx ts :=
  rfl

theorem run_pass_bind (f : Unit → Step β) (ctx : Context) (ts : List Token) :
    (pass >>= f) ctx ts = f () ctx ts.tail :=
  rfl

theorem run_remaining_bind (f : List Token → Step β) (ctx : Context) (ts : List Token) :
    (remaining >>= f) ctx ts = f ts ctx ts :=
  rfl

theorem run_size_bind (f : Nat → Step β) (ctx : Context) (ts : List Token) :
    (size >>= f) ctx ts = f ctx.size ctx ts :=
  rfl

/-- A step that gives a result is known but for what it noted. -/
theorem Gives.run {p : Step α} {a : α} (h : Gives p ctx ts a rest) :
    p ctx ts = ⟨(p ctx ts).findings, rest, .ok a⟩ := by
  obtain ⟨hresult, hrest⟩ := h
  rw [← hresult, ← hrest]

/-! ## Steps that always have a result -/

theorem gives_peek_bind {f : Token → Step β} {b : β} :
    Gives (peek >>= f) ctx ts b rest ↔ Gives (f (ts.headD ctx.stop)) ctx ts b rest :=
  Iff.rfl

theorem gives_pass_bind {f : Unit → Step β} {b : β} :
    Gives (pass >>= f) ctx ts b rest ↔ Gives (f ()) ctx ts.tail b rest :=
  Iff.rfl

theorem gives_pass_pure {a b : α} :
    Gives (pass >>= fun _ => pure a) ctx ts b rest ↔ b = a ∧ rest = ts.tail := by
  rw [gives_pass_bind, gives_pure]

theorem gives_remaining_bind {f : List Token → Step β} {b : β} :
    Gives (remaining >>= f) ctx ts b rest ↔ Gives (f ts) ctx ts b rest :=
  Iff.rfl

theorem gives_goOn_bind {us : List Token} {f : Unit → Step β} {b : β} :
    Gives (goOn us >>= f) ctx ts b rest ↔ Gives (f ()) ctx us b rest :=
  Iff.rfl

theorem gives_size_bind {f : Nat → Step β} {b : β} :
    Gives (size >>= f) ctx ts b rest ↔ Gives (f ctx.size) ctx ts b rest :=
  Iff.rfl

theorem gives_remark_bind
    {ls : List Lint} {first : Token} {length : Nat} {f : Unit → Step β} {b : β} :
    Gives (remark ls first length >>= f) ctx ts b rest ↔ Gives (f ()) ctx ts b rest :=
  Iff.rfl

/-! ## Steps that may fail -/

theorem not_gives_fail {e : ParseError} {place : Token} {a : α} :
    ¬Gives (fail e place) ctx ts a rest := by
  rintro ⟨hres, -⟩
  cases hres

theorem not_gives_unexpected {what : Expectation} {a : α} :
    ¬Gives (unexpected what) ctx ts a rest := by
  rintro ⟨hres, -⟩
  cases hres

theorem gives_enter {taken : Nat} {u : Unit} :
    Gives (enter taken) ctx ts u rest ↔ taken < ctx.maxDepth ∧ rest = ts := by
  unfold Gives enter
  split
  next h => simp [Nat.not_lt.mpr h]
  next h => simp [Nat.not_le.mp h, eq_comm]

theorem gives_ite
    {c : Prop} [Decidable c] {p q : Step α} {a : α} :
    Gives (if c then p else q) ctx ts a rest ↔
      (c ∧ Gives p ctx ts a rest) ∨ (¬c ∧ Gives q ctx ts a rest) := by
  split <;> simp_all

theorem gives_expect {kind : TokenKind} {what : Expectation} {u : Unit} :
    Gives (expect kind what) ctx ts u rest ↔
      (ts.headD ctx.stop).kind = kind ∧ rest = ts.tail := by
  unfold expect
  rw [gives_peek_bind, gives_ite, gives_pass]
  simp only [not_gives_unexpected, and_false, or_false]

theorem run_expect {kind : TokenKind} {t : Token} (what : Expectation) (ctx : Context)
    (ts : List Token) (ht : t.kind = kind) :
    expect kind what ctx (t :: ts) = ⟨[], ts, .ok ()⟩ := by
  unfold expect
  rw [run_peek_bind, List.headD_cons, if_pos ht]
  rfl

end TraceCheck.Reading
