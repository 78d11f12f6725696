import Mathlib.Data.List.ReduceOption
import TraceCheck.Proofs.Grammar.Blame
import TraceCheck.Proofs.Token.Places

/-!
# Recovery from failed terms

Reading a rule attempts its terms one after the other.  When a term fails, what is left of
it is skipped up to the next operator, and the next term is attempted behind that.  Hence
each attempt has one fault at most, the faults ascend, and one that ends the reading is the
last one.
-/

namespace TraceCheck.Reading

variable {α β : Type} {ctx : Context} {stop : Token} {ts rest : List Token}
  {attempts : List (Option Fault)}

/-! ## Attempts at terms -/

/-- Tokens are parted by operators into attempts at terms, up to some that are left.  An
attempt begins with taking a level of nesting behind its operator.  It has one fault at
most, at a token of its part or at the next one, and only the last attempt may have a fault
that ends the reading. -/
inductive TermAttempts (stop : Token) : List Token → List (Option Fault) → List Token → Prop
  | last {part rest : List Token} {fault? : Option Fault}
    (hblames : ∀ f ∈ fault?, f.Blames part (rest.headD stop)) :
    TermAttempts stop (part ++ rest) [fault?] rest
  | next {part behind rest : List Token} {op : Token} {fault? : Option Fault}
    {others : List (Option Fault)} (hop : (operatorOf? op).isSome = true)
    (hblames : ∀ f ∈ fault?, f.Blames part op)
    (hgoes : ∀ f ∈ fault?, f.error.endsReading = false)
    (hothers : TermAttempts stop behind others rest) :
    TermAttempts stop (part ++ op :: behind) (fault? :: others) rest

/-- There are no more attempts than the operators allow for. -/
theorem TermAttempts.length_le (h : TermAttempts stop ts attempts rest) :
    attempts.length ≤ 1 + ts.countP fun t => (operatorOf? t).isSome := by
  induction h with
  | last hblames => exact Nat.le_add_right _ _
  | @next part behind rest op fault? others hop hblames hgoes hothers ih =>
      have hcount : (op :: behind).countP (fun t => (operatorOf? t).isSome) =
          behind.countP (fun t => (operatorOf? t).isSome) + 1 :=
        List.countP_cons_of_pos hop
      rw [List.length_cons, List.countP_append, hcount]
      omega

theorem TermAttempts.length_pos (h : TermAttempts stop ts attempts rest) :
    0 < attempts.length := by
  cases h with
  | last hblames => exact Nat.one_pos
  | next hop hblames hgoes hothers => exact Nat.succ_pos _

/-- What is left behind the attempts are the last tokens. -/
theorem TermAttempts.suffix (h : TermAttempts stop ts attempts rest) : rest <:+ ts := by
  induction h with
  | last hblames => exact List.suffix_append _ _
  | @next part behind rest op fault? others hop hblames hgoes hothers ih =>
      exact (ih.trans (List.suffix_cons op behind)).trans (List.suffix_append part _)

/-- The faults of attempts blame tokens that are read. -/
theorem TermAttempts.blames (h : TermAttempts stop ts attempts rest) {f : Fault}
    (hf : some f ∈ attempts) : f.Blames ts stop := by
  induction h with
  | @last part rest fault? hblames =>
      obtain rfl := List.mem_singleton.mp hf
      have hwhole := hblames f rfl
      rw [← List.append_nil rest] at hwhole
      exact hwhole.append_right
  | @next part behind rest op fault? others hop hblames hgoes hothers ih =>
      rcases List.mem_cons.mp hf with rfl | hf
      · have hwhole : f.Blames part (((op :: behind) ++ []).headD stop) := hblames f rfl
        exact hwhole.append_right
      · have hwhole := (ih hf).append_left (part ++ [op])
        rwa [List.append_assoc] at hwhole

/-- The faults of attempts ascend as their tokens do, and a fault that ends the reading has
none behind it. -/
theorem TermAttempts.pairwise (h : TermAttempts stop ts attempts rest) {R : Token → Token → Prop}
    (hR : (ts ++ [stop]).Pairwise R) :
    attempts.reduceOption.Pairwise fun f g =>
      R f.place g.place ∧ f.error.endsReading = false := by
  refine List.pairwise_filterMap.mpr ?_
  induction h with
  | last hblames => exact List.pairwise_singleton _ _
  | @next part behind rest op fault? others hop hblames hgoes hothers ih =>
      have hparts : ((part ++ [op]) ++ (behind ++ [stop])).Pairwise R := by
        rw [List.append_assoc] at hR ⊢
        exact hR
      obtain ⟨-, hbehind, hbetween⟩ := List.pairwise_append.mp hparts
      refine .cons (fun other hother f hf g hg => ?_) (ih hbehind)
      obtain rfl : fault? = some f := hf
      obtain rfl : other = some g := hg
      exact ⟨hbetween _ (hblames f rfl).place _ (hothers.blames hother).place, hgoes f rfl⟩

/-! ## Attempting a term -/

/-- What is left behind an attempt, and the fault of the attempt.  Reading goes on when the
fault does not end it. -/
structure Attempted (ctx : Context) (part : List Token) (fault? : Option Fault)
    (out : Outcome (Option α)) : Prop where
  faults : faults out.findings = fault?.toList
  blames : ∀ f ∈ fault?, f.Blames part (out.rest.headD ctx.stop)
  goesOn : (∃ a, out.result = .ok a ∧ ∀ f ∈ fault?, f.error.endsReading = false) ∨
    out.result = .error .stopped

theorem skipToOperator_append (ts : List Token) :
    ∃ skipped, skipped ++ skipToOperator ts = ts :=
  ⟨_, List.takeWhile_append_dropWhile⟩

/-- An attempt at a term passes or skips a part of the tokens and has one fault at most. -/
theorem exists_attempted {p : Step α} (hp : p.Accountable) (ctx : Context) (ts : List Token) :
    ∃ (part : List Token) (fault? : Option Fault), part ++ (attempt p ctx ts).rest = ts ∧
      Attempted ctx part fault? (attempt p ctx ts) := by
  obtain ⟨part, htokens, haccount⟩ := hp ctx ts
  cases hrun : p ctx ts with
  | mk found rest result =>
      rw [hrun] at htokens haccount
      cases result with
      | ok a =>
          have hattempt : attempt p ctx ts = ⟨found, rest, .ok (some a)⟩ := by
            rw [attempt, hrun]
          rw [hattempt]
          refine ⟨part, none, htokens, ⟨haccount, ?_, .inl ⟨some a, rfl, ?_⟩⟩⟩
          · rintro f ⟨⟩
          · rintro f ⟨⟩
      | error e =>
          obtain ⟨f, hfaults, hblames, hends⟩ := haccount
          cases hgoes : f.error.endsReading with
          | false =>
              rw [hgoes] at hends
              obtain rfl : e = .failed := hends
              obtain ⟨skipped, hskipped⟩ := skipToOperator_append rest
              have hattempt : attempt p ctx ts = ⟨found, skipToOperator rest, .ok none⟩ := by
                rw [attempt, hrun]
              have hwhole : f.Blames part ((skipped ++ skipToOperator rest).headD ctx.stop) := by
                rwa [hskipped]
              rw [hattempt]
              refine ⟨part ++ skipped, some f, ?_, ⟨hfaults, ?_, .inl ⟨none, rfl, ?_⟩⟩⟩
              · rw [List.append_assoc, hskipped]
                exact htokens
              · rintro f' ⟨⟩
                exact hwhole.append_right
              · rintro f' ⟨⟩
                exact hgoes
          | true =>
              rw [hgoes] at hends
              obtain rfl : e = .stopped := hends
              have hattempt : attempt p ctx ts = ⟨found, rest, .error .stopped⟩ := by
                rw [attempt, hrun]
              rw [hattempt]
              refine ⟨part, some f, htokens, ⟨hfaults, ?_, .inr rfl⟩⟩
              rintro f' ⟨⟩
              exact hblames

/-! ## Attempting the terms of a chain -/

theorem operatorOf?_eq_none_of_eof {t : Token} (ht : t.kind = .eof) : operatorOf? t = none := by
  rw [operatorOf?, ht]

theorem run_chain_of_none {fuel taken : Nat} {left : Option Expr}
    (hop : operatorOf? (ts.headD ctx.stop) = none) :
    chain fuel taken left ctx ts = ⟨[], ts, .ok left⟩ := by
  cases fuel with
  | zero => rfl
  | succ fuel =>
      rw [chain_succ, run_peek_bind, hop]
      rfl

/-- Read the term behind an operator and go on with the chain. -/
def chainLink (fuel taken : Nat) (left : Option Expr) (op : LogicalOp) (t : Token) :
    Step (Option Expr) := do
  remark (Lint.ofOperator op) t t.length
  enter taken
  let right ← attempt (term (← size) (taken + 1))
  chain fuel (taken + 1) (do return .binary op (← left) (← right))

theorem run_chain_of_some {fuel taken : Nat} {left : Option Expr} {t : Token} {op : LogicalOp}
    (hop : operatorOf? t = some op) :
    chain (fuel + 1) taken left ctx (t :: ts) = chainLink fuel taken left op t ctx ts := by
  rw [chain_succ, run_peek_bind, List.headD_cons, hop]
  rfl

/-- A step reads some tokens by attempts at terms, and has the faults of these. -/
def ReadsTerms (ctx : Context) (p : Step α) (ts : List Token) : Prop :=
  ∃ attempts, TermAttempts ctx.stop ts attempts (p ctx ts).rest ∧
    faults (p ctx ts).findings = attempts.reduceOption

/-- A step goes on behind an attempt that has no fault or one that does not end the
reading. -/
def GoesOn (ctx : Context) (p : Step α) : Prop :=
  ∀ part ts fault?, (∀ f ∈ fault?, f.Blames part (ts.headD ctx.stop)) →
    (∀ f ∈ fault?, f.error.endsReading = false) →
    ∃ others, TermAttempts ctx.stop (part ++ ts) (fault? :: others) (p ctx ts).rest ∧
      faults (p ctx ts).findings = others.reduceOption

theorem ReadsTerms.size_bind {k : Nat → Step β} (h : ReadsTerms ctx (k ctx.size) ts) :
    ReadsTerms ctx (size >>= k) ts := by
  unfold ReadsTerms
  rw [run_size_bind]
  exact h

theorem ReadsTerms.remark_bind {ls : List Lint} {first : Token} {length : Nat}
    {k : Unit → Step β} (h : ReadsTerms ctx (k ()) ts) :
    ReadsTerms ctx (remark ls first length >>= k) ts := by
  obtain ⟨attempts, hattempts, hfaults⟩ := h
  unfold ReadsTerms
  rw [run_bind_of_ok (show remark ls first length ctx ts = ⟨_, ts, .ok ()⟩ from rfl)]
  refine ⟨attempts, hattempts, ?_⟩
  rw [faults_append, faults_lints, List.nil_append, hfaults]

theorem ReadsTerms.enter_bind (taken : Nat) {k : Unit → Step β} (h : ReadsTerms ctx (k ()) ts) :
    ReadsTerms ctx (enter taken >>= k) ts := by
  unfold ReadsTerms
  by_cases htaken : ctx.maxDepth ≤ taken
  · have hrun : enter taken ctx ts =
        ⟨[.error (.tooDeep ctx.maxDepth) (ts.headD ctx.stop)], ts, .error .stopped⟩ :=
      if_pos htaken
    rw [run_bind_of_error hrun]
    have hblames : Fault.Blames ⟨.tooDeep ctx.maxDepth, ts.headD ctx.stop⟩ []
        (ts.headD ctx.stop) := ⟨List.mem_singleton_self _, nofun, nofun⟩
    have hlast : TermAttempts ctx.stop ([] ++ ts)
        [some ⟨.tooDeep ctx.maxDepth, ts.headD ctx.stop⟩] ts := by
      refine .last ?_
      rintro f ⟨⟩
      exact hblames
    exact ⟨_, hlast, rfl⟩
  · have hrun : enter taken ctx ts = ⟨[], ts, .ok ()⟩ := if_neg htaken
    rw [run_bind_of_ok hrun]
    exact h

theorem ReadsTerms.attempt_bind {p : Step α} {k : Option α → Step β} (hp : p.Accountable)
    (hk : ∀ a, GoesOn ctx (k a)) : ReadsTerms ctx (attempt p >>= k) ts := by
  obtain ⟨part, fault?, htokens, hfaults, hblames, hgoes⟩ := exists_attempted hp ctx ts
  unfold ReadsTerms
  cases hrun : attempt p ctx ts with
  | mk found rest result =>
      rw [hrun] at htokens hfaults hblames hgoes
      rcases hgoes with ⟨a, hresult, hgoes⟩ | hresult
      · obtain rfl : result = .ok a := hresult
        obtain ⟨others, hothers, hrest⟩ := hk a part rest fault? hblames hgoes
        rw [run_bind_of_ok hrun, ← htokens]
        refine ⟨fault? :: others, hothers, ?_⟩
        rw [faults_append, hfaults, hrest, ← List.reduceOption_singleton,
          ← List.reduceOption_append]
        rfl
      · obtain rfl : result = .error .stopped := hresult
        rw [run_bind_of_error hrun, ← htokens]
        exact ⟨[fault?], .last hblames, hfaults.trans (List.reduceOption_singleton _).symm⟩

/-- Reading goes on from attempt to attempt, until no operator follows or the reading
ends. -/
theorem GoesOn.chain (hstop : ctx.stop.kind = .eof) (fuel taken : Nat) (left : Option Expr) :
    GoesOn ctx (chain fuel taken left) := by
  induction fuel generalizing taken left with
  | zero => exact fun part ts fault? hblames hgoes => ⟨[], .last hblames, rfl⟩
  | succ fuel ih =>
      intro part ts fault? hblames hgoes
      cases hop : operatorOf? (ts.headD ctx.stop) with
      | none =>
          rw [run_chain_of_none hop]
          exact ⟨[], .last hblames, rfl⟩
      | some op =>
          cases ts with
          | nil =>
              rw [List.headD_nil, operatorOf?_eq_none_of_eof hstop] at hop
              cases hop
          | cons t ts =>
              rw [List.headD_cons] at hop hblames
              have hnext : (operatorOf? t).isSome = true := by
                rw [hop]
                rfl
              rw [run_chain_of_some hop]
              obtain ⟨attempts, hattempts, hfaults⟩ :
                  ReadsTerms ctx (chainLink fuel taken left op t) ts := by
                apply ReadsTerms.remark_bind
                apply ReadsTerms.enter_bind
                apply ReadsTerms.size_bind
                apply ReadsTerms.attempt_bind (Step.Accountable.term ctx.size (taken + 1))
                intro right
                exact ih (taken + 1) _
              exact ⟨attempts, .next hnext hblames hgoes hattempts, hfaults⟩

/-- An expression is read by attempts at its terms. -/
theorem readsTerms_expression (hstop : ctx.stop.kind = .eof) (ts : List Token) :
    ReadsTerms ctx expression ts := by
  rw [expression_eq]
  apply ReadsTerms.size_bind
  apply ReadsTerms.attempt_bind (Step.Accountable.term ctx.size 0)
  intro first part ts fault? hblames hgoes
  exact GoesOn.chain hstop ctx.size 0 first part ts fault? hblames hgoes

end TraceCheck.Reading

namespace TraceCheck

open TraceCheck.Reading

/-! ## Verdicts -/

/-- A diagnostic covers a token, and one column at least. -/
structure Diagnostic.CoversToken (d : Diagnostic) (t : Token) : Prop where
  line : d.line = t.line
  column : d.column = t.column
  endLine : d.endLine = t.line
  endColumn : d.endColumn = t.column + max t.length 1

/-- The faults of reading the tokens of a text.  There is one at most for each term that is
attempted, or a single one behind an expression. -/
structure ReportsTerms (tokens : List Token) (found : List Fault) (ast : Option Expr) :
    Prop where
  attempts : ∃ attempts rest, TermAttempts (stopToken tokens) (bodyOf tokens) attempts rest ∧
    found.length ≤ attempts.length ∧ (found = attempts.reduceOption ∨
      attempts.reduceOption = [] ∧ ∃ t us, rest = t :: us ∧ found = [⟨.trailing t.describe, t⟩])
  bounded : found.length ≤ 1 + tokens.countP fun t => t.kind = .and ∨ t.kind = .or
  ascending : (found.map Fault.diagnostic).Pairwise Diagnostic.IsBefore
  covering : ∀ f ∈ found, f.place ∈ tokens ∧ f.diagnostic.CoversToken f.place
  quoting : ∀ f ∈ found, ∀ s ∈ f.error.quoted?, s = f.place.describe
  ending : found.Pairwise fun f _ => f.error.endsReading = false
  ast_iff : ast.isSome = true ↔ found = [] ∨ ∃ t, found = [⟨.trailing t.describe, t⟩]

theorem Fault.coversToken (f : Fault) : f.diagnostic.CoversToken f.place :=
  ⟨rfl, rfl, rfl, rfl⟩

theorem isSome_operatorOf?_iff {t : Token} :
    (operatorOf? t).isSome = true ↔ t.kind = .and ∨ t.kind = .or := by
  unfold operatorOf?
  split <;> simp_all

/-- The tokens of a text that is not refused, when there are some. -/
theorem tokenize_of_not_fatal {l : Limits} {source : String}
    (hfatal : (tokenize l source).fatal = false)
    (hsome : ∃ t ∈ (tokenize l source).tokens, t.kind ≠ .eof) :
    ∃ body stop, (tokenize l source).tokens = body ++ [stop] ∧ stop.kind = .eof ∧
      (∀ t ∈ body, t.WellSpelled) ∧ body ≠ [] ∧
      (tokenize l source).tokens.Pairwise Token.IsBefore := by
  have hsize : source.utf8ByteSize ≤ l.maxTotalLength := by
    by_contra hlarge
    rw [tokenize_still, if_pos (Nat.not_le.mp hlarge)] at hfatal
    cases hfatal
  have hunexpired : ¬(l.expired = true ∧ source ≠ "") := by
    intro hexpired
    rw [tokenize_still, if_neg (Nat.not_lt.mpr hsize), if_pos hexpired] at hfatal
    cases hfatal
  have htokens : (tokenize l source).tokens =
      (lexemes source.toList).1.filterMap (·.token? l) ++
        [.eof (lexemes source.toList).2.line (lexemes source.toList).2.column] := by
    rw [tokenize_still, if_neg (Nat.not_lt.mpr hsize), if_neg hunexpired]
  have hne : (lexemes source.toList).1.filterMap (·.token? l) ≠ [] := by
    intro hnil
    obtain ⟨t, ht, hkind⟩ := hsome
    rw [htokens, hnil, List.nil_append, List.mem_singleton] at ht
    rw [ht] at hkind
    exact hkind rfl
  have hbudget : l.expired = false := by
    by_contra hexpired
    have hempty : source = "" := by
      by_contra hsource
      exact hunexpired ⟨Bool.eq_true_of_not_eq_false hexpired, hsource⟩
    subst hempty
    exact hne rfl
  exact ⟨_, _, htokens, rfl, fun t ht => wellSpelled_of_mem_tokens ht, hne,
    tokenize_ascending hbudget hsize⟩

theorem stopToken_append {ts : List Token} {stop : Token} (hts : ∀ t ∈ ts, t.kind ≠ .eof)
    (hstop : stop.kind = .eof) : stopToken (ts ++ [stop]) = stop := by
  have hfind : (ts ++ [stop]).find? (·.kind = .eof) = some stop := by
    rw [List.find?_append, List.find?_eq_none.mpr fun t ht => by simpa using hts t ht]
    simp [hstop]
  rw [stopToken, hfind]

/-- A rule has the faults of its attempts, or it has an expression and one fault behind
it. -/
theorem allFaults_cases {out : Outcome (Option Expr)} {attempts : List (Option Fault)}
    (hclean : (∃ e, out.result = .ok (some e)) ↔ noErrors out.findings = true)
    (hfaults : faults out.findings = attempts.reduceOption) :
    (out.allFaults = attempts.reduceOption ∧
        (out.expr?.isSome = true ↔ attempts.reduceOption = [])) ∨
      attempts.reduceOption = [] ∧ out.expr?.isSome = true ∧
        ∃ t us, out.rest = t :: us ∧ out.allFaults = [⟨.trailing t.describe, t⟩] := by
  have hiff : out.expr?.isSome = true ↔ attempts.reduceOption = [] := by
    rw [← hfaults, faults_eq_nil_iff, ← hclean, Option.isSome_iff_exists]
    exact exists_congr fun e => Outcome.expr?_eq_some_iff
  cases hexpr : out.expr? with
  | none =>
      left
      rw [hexpr] at hiff
      refine ⟨?_, hiff⟩
      rw [Outcome.allFaults, Outcome.trailing_of_none hexpr, List.append_nil, hfaults]
  | some e =>
      have hnone : attempts.reduceOption = [] := hiff.mp (by rw [hexpr]; rfl)
      cases hrest : out.rest with
      | nil =>
          left
          rw [hexpr] at hiff
          refine ⟨?_, hiff⟩
          rw [Outcome.allFaults, Outcome.trailing_of_nil hrest, List.append_nil, hfaults]
      | cons t us =>
          right
          refine ⟨hnone, rfl, t, us, rfl, ?_⟩
          rw [Outcome.allFaults, Outcome.trailing_of_cons hexpr hrest, hfaults, hnone]
          rfl

section Reports

variable {body : List Token} {stop : Token} {attempts : List (Option Fault)} {rest : List Token}

theorem length_attempts_le (h : TermAttempts stop body attempts rest) :
    attempts.length ≤ 1 + (body ++ [stop]).countP fun t => t.kind = .and ∨ t.kind = .or := by
  refine h.length_le.trans (Nat.add_le_add_left ?_ 1)
  rw [List.countP_append]
  refine Nat.le_trans (List.countP_mono_left fun t _ ht => ?_) (Nat.le_add_right _ _)
  exact decide_eq_true (isSome_operatorOf?_iff.mp ht)

/-- A rule that has the faults of its attempts. -/
theorem ReportsTerms.of_attempts {ast : Option Expr} (hbody : ∀ t ∈ body, t.kind ≠ .eof)
    (hstop : stop.kind = .eof) (hascending : (body ++ [stop]).Pairwise Token.IsBefore)
    (h : TermAttempts stop body attempts rest)
    (hast : ast.isSome = true ↔ attempts.reduceOption = []) :
    ReportsTerms (body ++ [stop]) attempts.reduceOption ast := by
  have hblames (f : Fault) (hf : f ∈ attempts.reduceOption) : f.Blames body stop :=
    h.blames (List.reduceOption_mem_iff.mp hf)
  have hpairwise := h.pairwise hascending
  have hlength := List.reduceOption_length_le attempts
  refine ⟨⟨attempts, rest, ?_, hlength, .inl rfl⟩, hlength.trans (length_attempts_le h),
    ?_, ?_, ?_, ?_, ?_⟩
  · rwa [bodyOf_append hbody hstop, stopToken_append hbody hstop]
  · exact List.pairwise_map.mpr (hpairwise.imp And.left)
  · exact fun f hf => ⟨(hblames f hf).place, f.coversToken⟩
  · exact fun f hf => (hblames f hf).quoted
  · exact hpairwise.imp And.right
  · refine hast.trans ⟨Or.inl, ?_⟩
    rintro (hnil | ⟨t, htrailing⟩)
    · exact hnil
    · have hmem : ⟨.trailing t.describe, t⟩ ∈ attempts.reduceOption := by
        rw [htrailing]
        exact List.mem_singleton_self _
      exact absurd rfl ((hblames _ hmem).notTrailing t.describe)

/-- A rule whose attempts have no faults, with tokens behind it. -/
theorem ReportsTerms.of_trailing {ast : Option Expr} {t : Token} {us : List Token}
    (hbody : ∀ t ∈ body, t.kind ≠ .eof) (hstop : stop.kind = .eof)
    (h : TermAttempts stop body attempts (t :: us)) (hnone : attempts.reduceOption = [])
    (hast : ast.isSome = true) :
    ReportsTerms (body ++ [stop]) [⟨.trailing t.describe, t⟩] ast := by
  have ht : t ∈ body ++ [stop] := List.mem_append_left _ (h.suffix.subset List.mem_cons_self)
  refine ⟨⟨attempts, t :: us, ?_, h.length_pos, .inr ⟨hnone, t, us, rfl, rfl⟩⟩,
    h.length_pos.trans_le (length_attempts_le h), ?_, ?_, ?_, ?_, ?_⟩
  · rwa [bodyOf_append hbody hstop, stopToken_append hbody hstop]
  · exact List.pairwise_singleton _ _
  · exact List.forall_mem_singleton.mpr ⟨ht, Fault.coversToken _⟩
  · refine List.forall_mem_singleton.mpr ?_
    rintro s ⟨⟩
    rfl
  · exact List.pairwise_singleton _ _
  · exact ⟨fun _ => .inr ⟨t, rfl⟩, fun _ => hast⟩

/-- What reading the tokens of a text reports. -/
theorem reportsTerms_readTokens (l : Limits) (hbody : ∀ t ∈ body, t.kind ≠ .eof)
    (hstop : stop.kind = .eof) (hascending : (body ++ [stop]).Pairwise Token.IsBefore) :
    ReportsTerms (body ++ [stop]) (readTokens l (body ++ [stop])).allFaults
      (readTokens l (body ++ [stop])).expr? := by
  have hterms : ReadsTerms (readingContext l (body ++ [stop]) body) expression body :=
    readsTerms_expression (kind_stopToken _) body
  obtain ⟨attempts, hattempts, hfaults⟩ := hterms
  have hread : readTokens l (body ++ [stop]) =
      expression (readingContext l (body ++ [stop]) body) body := by
    rw [readTokens, bodyOf_append hbody hstop]
  have hclean := HonestOption.expression (readingContext l (body ++ [stop]) body) body
  rw [← hread] at hattempts hfaults hclean
  have hattempts : TermAttempts stop body attempts (readTokens l (body ++ [stop])).rest := by
    rwa [readingContext, stopToken_append hbody hstop] at hattempts
  rcases allFaults_cases hclean hfaults with ⟨hall, hast⟩ | ⟨hnone, hast, t, us, hrest, hall⟩
  · rw [hall]
    exact .of_attempts hbody hstop hascending hattempts hast
  · rw [hrest] at hattempts
    rw [hall]
    exact .of_trailing hbody hstop hattempts hnone hast

end Reports

/-- Reading recovers from failed terms.  The tokens of a text that is not refused are read
with one error at most for each term that is attempted.  The errors stand behind those of
the text, cover tokens that ascend, and one that ends the reading is the last. -/
theorem checkTokens_reportsTerms (l lexing : Limits) (source : String)
    (hl : l.expired = false) (hfatal : (tokenize lexing source).fatal = false)
    (hsome : ∃ t ∈ (tokenize lexing source).tokens, t.kind ≠ .eof) :
    let lexed := tokenize lexing source
    let v := checkTokens l lexed.errors lexed.tokens
    ∃ found, v.errors = lexed.errors ++ found.map Fault.diagnostic ∧
      ReportsTerms lexed.tokens found v.ast := by
  obtain ⟨body, stop, htokens, hstop, hbody, hne, hascending⟩ := tokenize_of_not_fatal hfatal hsome
  have hkinds : ∀ t ∈ body, t.kind ≠ .eof := fun t ht => (hbody t ht).1
  have hearlier : (tokenize lexing source).errors.filter (·.isError) =
      (tokenize lexing source).errors :=
    List.filter_eq_self.mpr (isError_of_mem_errors lexing source)
  have hnonempty : bodyOf (body ++ [stop]) ≠ [] := by rwa [bodyOf_append hkinds hstop]
  intro lexed v
  have hv : v = checkTokens l lexed.errors (body ++ [stop]) := by rw [← htokens]
  rw [hv, checkTokens_eq_readTokens lexed.errors hl hnonempty, hearlier]
  rw [htokens] at hascending ⊢
  exact ⟨_, rfl, reportsTerms_readTokens l hkinds hstop hascending⟩

/-- Two terms that fail in front of one that nests too deep. -/
theorem checkTokens_reportsTerms_tooDeep :
    let source := "trace.has() and trace.find(x.y) or not trace.has(a)"
    let l : Limits := { maxRecursionDepth := 2 }
    l.expired = false ∧ (tokenize {} source).fatal = false ∧
      (∃ t ∈ (tokenize {} source).tokens, t.kind ≠ .eof) ∧
      ∃ found, (checkTokens l (tokenize {} source).errors (tokenize {} source).tokens).errors =
          (tokenize {} source).errors ++ found.map Fault.diagnostic ∧
        ReportsTerms (tokenize {} source).tokens found
          (checkTokens l (tokenize {} source).errors (tokenize {} source).tokens).ast := by
  intro source l
  have hfatal : (tokenize {} source).fatal = false := by decide +kernel
  have hsome : ∃ t ∈ (tokenize {} source).tokens, t.kind ≠ .eof := by decide +kernel
  exact ⟨rfl, hfatal, hsome, checkTokens_reportsTerms l {} source rfl hfatal hsome⟩

end TraceCheck
