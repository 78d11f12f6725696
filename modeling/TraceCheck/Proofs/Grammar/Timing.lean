import TraceCheck.Proofs.Grammar.Composition

/-!
# Reading against the clock

The time may be used up at any look at the clock.  Reading then ends at once, and the
verdict has one error, which says so.  At every other look reading goes on as if there
were no clock.  So a text has the verdict that it has in unlimited time, or the one of a
text that took too long, and no third one.
-/

namespace TraceCheck

open Reading

namespace Reading

variable {α β : Type} {late : Look → Bool}

/-! ## Unlimited time -/

/-- A step does not find the time used up. -/
def Step.Unhurried (p : Step α) : Prop :=
  ∀ ctx ts, (p ctx ts).result ≠ .error .timedOut

namespace Step.Unhurried

theorem pure (a : α) : (Pure.pure a : Step α).Unhurried :=
  fun _ _ => nofun

theorem bind {p : Step α} {f : α → Step β} (hp : p.Unhurried) (hf : ∀ a, (f a).Unhurried) :
    (p >>= f).Unhurried := by
  intro ctx ts
  have hfirst := hp ctx ts
  change (Step.bind p f ctx ts).result ≠ _
  unfold Step.bind
  cases hrun : p ctx ts with
  | mk found rest result =>
      rw [hrun] at hfirst
      cases result with
      | ok a => exact hf a ctx rest
      | error e => exact fun htimed => hfirst (congrArg Except.error (Except.error.inj htimed))

theorem enter (taken : Nat) : (enter taken).Unhurried := by
  intro ctx ts
  unfold Reading.enter
  split
  · nofun
  · nofun

/-- Only a look at the clock can find the time used up. -/
theorem of_composed {p : Step α} (hp : p.Composed) : p.Unhurried := by
  induction hp with
  | pure a => exact pure a
  | bind _ _ ihp ihf => exact bind ihp ihf
  | peek => exact fun _ _ => nofun
  | pass => exact fun _ _ => nofun
  | remaining => exact fun _ _ => nofun
  | goOn ts => exact fun _ _ => nofun
  | size => exact fun _ _ => nofun
  | remark ls first length => exact fun _ _ => nofun
  | fail e place => exact fun _ _ => nofun
  | enter taken => exact enter taken

theorem attempt {p : Step α} (hp : p.Unhurried) : (attempt p).Unhurried := by
  intro ctx ts
  have hfirst := hp ctx ts
  unfold Reading.attempt
  cases hrun : p ctx ts with
  | mk found rest result =>
      rw [hrun] at hfirst
      cases result with
      | ok a => nofun
      | error e =>
          cases e with
          | failed => nofun
          | stopped => nofun
          | timedOut => exact absurd rfl hfirst

/-- Reading in unlimited time does not find the time used up. -/
theorem of_recovering {p : Step α} (hp : p.Recovering) : p.Unhurried := by
  induction hp with
  | composed hp => exact of_composed hp
  | bind _ _ ihp ihf => exact bind ihp ihf
  | attempt hp => exact attempt (of_composed hp)

end Step.Unhurried

/-! ## Looking at the clock -/

/-- A step does what another one does, unless it finds the time used up. -/
def Step.Hurries (p q : Step α) : Prop :=
  ∀ ctx ts, p ctx ts = q ctx ts ∨ (p ctx ts).result = .error .timedOut

namespace Step.Hurries

theorem refl (p : Step α) : p.Hurries p :=
  fun _ _ => .inl rfl

theorem bind {p q : Step α} {f g : α → Step β} (h : p.Hurries q)
    (hnext : ∀ a, (f a).Hurries (g a)) : (p >>= f).Hurries (q >>= g) := by
  intro ctx ts
  change Step.bind p f ctx ts = Step.bind q g ctx ts ∨ (Step.bind p f ctx ts).result = _
  unfold Step.bind
  rcases h ctx ts with heq | htimed
  · rw [← heq]
    cases p ctx ts with
    | mk found rest result =>
        cases result with
        | ok a =>
            refine (hnext a ctx rest).imp (fun hsame => ?_) fun htimed => htimed
            dsimp only
            rw [hsame]
        | error e => exact .inl rfl
  · right
    cases hrun : p ctx ts with
    | mk found rest result =>
        rw [hrun] at htimed
        obtain rfl : result = .error .timedOut := htimed
        rfl

/-- What follows a look at the clock is reached if the look is not late. -/
theorem look_bind {place : Nat → Look} {p : Unit → Step α} {q : Step α}
    (h : (p ()).Hurries q) : (look late place >>= p).Hurries q := by
  intro ctx ts
  change Step.bind (look late place) p ctx ts = _ ∨
    (Step.bind (look late place) p ctx ts).result = _
  unfold Step.bind look
  split
  next found rest a hlook =>
    split at hlook
    · cases hlook
    · cases hlook
      exact h ctx ts
  next found rest e hlook =>
    split at hlook
    · cases hlook
      exact .inr rfl
    · cases hlook

theorem attempt {p q : Step α} (h : p.Hurries q) : (attempt p).Hurries (attempt q) := by
  intro ctx ts
  unfold Reading.attempt
  rcases h ctx ts with heq | htimed
  · rw [heq]
    exact .inl rfl
  · right
    cases hrun : p ctx ts with
    | mk found rest result =>
        rw [hrun] at htimed
        obtain rfl : result = .error .timedOut := htimed
        rfl

theorem termBy (fuel taken : Nat) : (termBy late fuel taken).Hurries (term fuel taken) := by
  induction fuel generalizing taken with
  | zero => exact refl _
  | succ fuel ih =>
      rw [term_succ, Reading.termBy]
      apply look_bind
      apply bind (refl peek)
      intro t
      split
      · apply bind (refl pass)
        intro _
        apply look_bind
        apply bind (refl (enter taken))
        intro _
        exact bind (ih (taken + 1)) fun e => refl _
      · exact look_bind (refl spanCheck)

theorem chainBy (fuel taken : Nat) (left : Option Expr) :
    (chainBy late fuel taken left).Hurries (chain fuel taken left) := by
  induction fuel generalizing taken left with
  | zero => exact refl _
  | succ fuel ih =>
      rw [chain_succ, Reading.chainBy]
      apply bind (refl peek)
      intro t
      split
      · exact refl _
      · apply bind (refl pass)
        intro _
        apply bind (refl (remark _ _ _))
        intro _
        apply look_bind
        apply bind (refl (enter taken))
        intro _
        apply bind (refl size)
        intro n
        apply bind (attempt (termBy n (taken + 1)))
        intro right
        exact ih (taken + 1) _

theorem expressionBy : (expressionBy late).Hurries expression := by
  rw [expression_eq, Reading.expressionBy]
  apply look_bind
  apply bind (refl size)
  intro n
  apply bind (attempt (termBy n 0))
  intro first
  apply bind (refl size)
  intro n
  exact chainBy n 0 first

end Step.Hurries

/-- Reading does not get past a first look that is late. -/
theorem result_expressionBy_of_late (h : late .expression = true) (ctx : Context)
    (ts : List Token) : (expressionBy late ctx ts).result = .error .timedOut := by
  change (Step.bind (look late fun _ => .expression) _ ctx ts).result = _
  unfold Step.bind look
  rw [if_pos h]

/-- Reading without late looks takes unlimited time. -/
theorem expressionBy_of_never (h : ∀ look, late look = false) : expressionBy late = expression := by
  obtain rfl : late = never := funext h
  rfl

end Reading

/-! ## Verdicts -/

/-- A verdict says that the time is used up, and nothing else. -/
def Verdict.TimesOut (l : Limits) (v : Verdict) : Prop :=
  ∃ suggestion,
    v = .refused (.wholeInput (ParseError.timeout l.maxParseTimeMs).message suggestion)

variable {l : Limits} {clock : Clock}

theorem Reading.Outcome.verdict_timesOut (earlier : List Diagnostic)
    {out : Reading.Outcome (Option Expr)} (h : out.result = .error .timedOut) :
    (out.verdict l earlier).TimesOut l := by
  unfold Outcome.verdict
  rw [h]
  exact ⟨none, rfl⟩

theorem Limits.isLate_of_expired (hl : l.expired = true) (clock : Clock) (look : Look) :
    l.isLate clock look = true := by
  have hzero : l.maxParseTimeMs = 0 := eq_of_beq hl
  rw [isLate, hzero]
  exact decide_eq_true (Nat.zero_le _)

/-- As long as no time passes, it is used up at the start or not at all. -/
theorem checkTokens_still (l : Limits) (earlier : List Diagnostic) (tokens : List Token) :
    checkTokens l earlier tokens =
      let body := tokens.takeWhile (·.kind ≠ .eof)
      if body.isEmpty then
        if earlier.isEmpty then
          .refused (.wholeInput ParseError.empty.message ParseError.empty.suggestion)
        else .ofDiagnostics earlier none
      else if l.expired then
        let e := ParseError.timeout l.maxParseTimeMs
        .refused (.wholeInput e.message e.suggestion)
      else
        let ctx : Reading.Context := ⟨l.maxRecursionDepth, stopToken tokens, body.length + 1⟩
        let out := Reading.expression ctx body
        let ast := match out.result with
          | .ok e => e
          | .error _ => none
        let trailing := match ast, out.rest with
          | some _, t :: _ => [Finding.error (.trailing t.describe) t]
          | _, _ => []
        .ofDiagnostics (earlier ++ (out.findings ++ trailing).map Finding.diagnostic) ast := by
  unfold checkTokens Outcome.verdict
  dsimp only
  split
  · rfl
  cases hl : l.expired with
  | true =>
      rw [result_expressionBy_of_late (l.isLate_of_expired hl _ _)]
      rfl
  | false =>
      rw [expressionBy_of_never fun look => (l.isLate_still look).trans hl]
      split
      next htimed => exact absurd htimed (Step.Unhurried.of_recovering .expression _ _)
      next => rfl

/-- Tokens are read as in unlimited time, unless that takes too long. -/
theorem checkTokens_eq_or_timesOut (l : Limits) (earlier : List Diagnostic)
    (tokens : List Token) (clock : Clock) :
    checkTokens l earlier tokens clock = checkTokens l earlier tokens ∨
      (checkTokens l earlier tokens clock).TimesOut l := by
  unfold checkTokens
  dsimp only
  split
  · exact .inl rfl
  cases hl : l.expired with
  | true =>
      exact .inr (Outcome.verdict_timesOut earlier
        (result_expressionBy_of_late (l.isLate_of_expired hl _ _) _ _))
  | false =>
      rw [expressionBy_of_never fun look => (l.isLate_still look).trans hl]
      rcases Step.Hurries.expressionBy _ _ with heq | htimed
      · exact .inl (congrArg (Outcome.verdict l earlier) heq)
      · exact .inr (Outcome.verdict_timesOut earlier htimed)

/-- The characters of a text are read as in unlimited time, unless that takes too long. -/
theorem tokenize_eq_or_timedOut (l : Limits) (source : String) (clock : Clock) :
    tokenize l source clock = tokenize l source ∨
      ∃ before p, tokenize l source clock = .timedOut l before p := by
  rw [tokenize_still]
  unfold tokenize
  split
  · exact .inl rfl
  dsimp only
  split
  next x n _ => exact .inr ⟨_, _, rfl⟩
  next hnone =>
    refine .inl (if_neg ?_).symm
    rintro ⟨hl, hsource⟩
    obtain ⟨x, rest, hfound, -⟩ := exists_lexemes_eq_cons (mt String.toList_eq_nil_iff.mp hsource)
    rw [hfound] at hnone
    exact List.find?_eq_none.mp hnone (x, 0) List.mem_cons_self (l.isLate_of_expired hl _ _)

/-- A text has the verdict that it has in unlimited time, unless reading it takes too
long. -/
theorem check_eq_or_timesOut (l : Limits) (source : String) (clock : Clock) :
    check l source clock = check l source ∨ (check l source clock).TimesOut l := by
  unfold check
  rcases tokenize_eq_or_timedOut l source clock with heq | ⟨before, p, htimed⟩
  · rw [heq]
    dsimp only
    split
    · exact .inl rfl
    · exact checkTokens_eq_or_timesOut l _ _ clock
  · rw [htimed]
    exact .inr ⟨some (LexicalError.timeout l.maxParseTimeMs).suggestion, rfl⟩

end TraceCheck
