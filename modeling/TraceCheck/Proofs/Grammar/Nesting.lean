import TraceCheck.Proofs.Grammar.Operators
import TraceCheck.Proofs.Grammar.Reports
import TraceCheck.Proofs.Grammar.WiderLimits

/-!
# The limit on nesting

A rule that is valid when expressions may be deep enough is valid within a limit on nesting
exactly when none of its operators takes a level beyond the limit.  Otherwise reading stops
behind the first operator that does, and this is all that the verdict reports.
-/

namespace TraceCheck.Reading

open TraceCheck.Grammar

variable {α β : Type} {ctx : Context} {ts rest : List Token} {t : Token}

/-! ## Steps that stop -/

/-- A step stops because a level too many is asked for in front of a token. -/
structure Stops (p : Step α) (ctx : Context) (ts : List Token) (t : Token) : Prop where
  faults : faults (p ctx ts).findings = [⟨.tooDeep ctx.maxDepth, t⟩]
  result : (p ctx ts).result = .error .stopped

theorem Stops.run {p : Step α} (h : Stops p ctx ts t) :
    p ctx ts = ⟨(p ctx ts).findings, (p ctx ts).rest, .error .stopped⟩ := by
  rw [← h.result]

theorem Stops.bind_left {p : Step α} (f : α → Step β) (h : Stops p ctx ts t) :
    Stops (p >>= f) ctx ts t := by
  constructor
  · rw [run_bind_of_error h.run f, h.faults]
  · rw [run_bind_of_error h.run f]

theorem Stops.bind {p : Step α} {f : α → Step β} {a : α} {mid : List Token}
    (hp : Gives p ctx ts a mid) (hclean : noErrors (p ctx ts).findings = true)
    (hf : Stops (f a) ctx mid t) : Stops (p >>= f) ctx ts t := by
  constructor
  · rw [run_bind_of_ok hp.run f, faults_append, faults_eq_nil_iff.mpr hclean, List.nil_append,
      hf.faults]
  · rw [run_bind_of_ok hp.run f, hf.result]

theorem stops_peek_bind {f : Token → Step β} :
    Stops (peek >>= f) ctx ts t ↔ Stops (f (ts.headD ctx.stop)) ctx ts t :=
  ⟨fun h => ⟨h.1, h.2⟩, fun h => ⟨h.1, h.2⟩⟩

theorem stops_pass_bind {f : Unit → Step β} :
    Stops (pass >>= f) ctx ts t ↔ Stops (f ()) ctx ts.tail t :=
  ⟨fun h => ⟨h.1, h.2⟩, fun h => ⟨h.1, h.2⟩⟩

theorem stops_size_bind {f : Nat → Step β} :
    Stops (size >>= f) ctx ts t ↔ Stops (f ctx.size) ctx ts t :=
  ⟨fun h => ⟨h.1, h.2⟩, fun h => ⟨h.1, h.2⟩⟩

theorem Stops.remark_bind {ls : List Lint} {first : Token} {length : Nat} {f : Unit → Step β}
    (h : Stops (f ()) ctx ts t) : Stops (remark ls first length >>= f) ctx ts t :=
  .bind ⟨rfl, rfl⟩ (noErrors_lints ls first length) h

theorem Stops.enter {taken : Nat} (htaken : ctx.maxDepth ≤ taken) :
    Stops (enter taken) ctx ts (ts.headD ctx.stop) := by
  unfold Reading.enter
  constructor
  · rw [if_pos htaken]
    rfl
  · rw [if_pos htaken]

theorem Stops.enter_bind {taken : Nat} {f : Unit → Step β} (htaken : taken < ctx.maxDepth)
    (h : Stops (f ()) ctx ts t) : Stops (Reading.enter taken >>= f) ctx ts t := by
  have hgives : Gives (Reading.enter taken) ctx ts () ts := gives_enter.mpr ⟨htaken, rfl⟩
  exact .bind hgives ((Honest.enter taken ctx ts).mp ⟨(), hgives.1⟩) h

theorem Stops.attempt {p : Step α} (h : Stops p ctx ts t) : Stops (attempt p) ctx ts t := by
  have hattempt : Reading.attempt p ctx ts =
      ⟨(p ctx ts).findings, (p ctx ts).rest, .error .stopped⟩ := by
    rw [Reading.attempt, h.run]
  constructor
  · rw [hattempt, h.faults]
  · rw [hattempt]

/-! ## Terms and chains that stop -/

/-- The first operator that takes a level beyond a limit. -/
def firstTooDeep? (D : Nat) (ops : List Operator) : Option Operator :=
  ops.find? (D < ·.level)

theorem firstTooDeep?_eq_none_iff {D : Nat} {ops : List Operator} :
    firstTooDeep? D ops = none ↔ ∀ o ∈ ops, o.level ≤ D := by
  simp [firstTooDeep?]

theorem firstTooDeep?_append (D : Nat) (xs ys : List Operator) :
    firstTooDeep? D (xs ++ ys) = (firstTooDeep? D xs).or (firstTooDeep? D ys) :=
  List.find?_append

theorem firstTooDeep?_cons_of_lt {D : Nat} {o : Operator} (ops : List Operator)
    (h : D < o.level) : firstTooDeep? D (o :: ops) = some o :=
  List.find?_cons_of_pos (decide_eq_true h)

theorem firstTooDeep?_cons_of_le {D : Nat} {o : Operator} (ops : List Operator)
    (h : o.level ≤ D) : firstTooDeep? D (o :: ops) = firstTooDeep? D ops :=
  List.find?_cons_of_neg (by simpa using h)

theorem headD_drop (tokens : List Token) (place : Nat) (stop : Token) :
    (tokens.drop place).headD stop = tokens[place]?.getD stop := by
  rw [List.headD_eq_head?_getD, List.head?_drop]

theorem Spells.eq_drop {w : List Terminal} (h : Spells ts w rest) : rest = ts.drop w.length := by
  obtain ⟨front, rfl, rfl⟩ := h
  rw [List.length_map, List.drop_left]

variable {tokens : List Token} {place fuel taken : Nat} {o : Operator}

/-- A term stops behind the first `not` that takes a level too many. -/
theorem term_stops {d : Grammar.Term} (h : Ready ctx (tokens.drop place))
    (hfuel : (tokens.drop place).length < fuel)
    (hspells : Spells (tokens.drop place) d.terminals rest)
    (ho : firstTooDeep? ctx.maxDepth (d.operators place taken) = some o) :
    Stops (term fuel taken) ctx (tokens.drop place) (tokens[o.place + 1]?.getD ctx.stop) := by
  induction d generalizing place fuel taken with
  | check c => cases ho
  | not d ih =>
      obtain ⟨fuel, rfl⟩ := Nat.exists_eq_succ_of_ne_zero (Nat.ne_zero_of_lt hfuel)
      have hlength := hspells.length_lt
      obtain ⟨hkind, hspells⟩ := (spells_fixed_cons_iff h rfl).mp hspells
      rw [nextKind] at hkind
      have hready := h.tail
      rw [List.tail_drop] at hspells hready
      rw [term_succ, stops_peek_bind, if_pos hkind, stops_pass_bind, List.tail_drop]
      by_cases htaken : ctx.maxDepth ≤ taken
      · rw [Grammar.Term.operators, firstTooDeep?_cons_of_lt _ (Nat.lt_succ_of_le htaken)] at ho
        injection ho with ho
        subst ho
        rw [← headD_drop]
        exact (Stops.enter htaken).bind_left _
      · have hlt := Nat.not_le.mp htaken
        rw [Grammar.Term.operators, firstTooDeep?_cons_of_le _ hlt] at ho
        have hshorter : (tokens.drop (place + 1)).length < fuel := by
          rw [List.length_drop] at hfuel hlength ⊢
          omega
        exact .enter_bind hlt ((ih hready hshorter hspells ho).bind_left _)

/-- What begins with a term stops in it, or it stops behind the term. -/
theorem Stops.term_bind {d : Grammar.Term} {e : Expr} {f : Option Expr → Step β}
    {ops : List Operator} (h : Ready ctx (tokens.drop place)) (hfits : d.Fits)
    (htaken : taken ≤ ctx.maxDepth) (hexpr : d.expr? = some e)
    (hspells : Spells (tokens.drop place) d.terminals rest) (hnext : nextKind ctx rest ≠ .dot)
    (ho : firstTooDeep? ctx.maxDepth (d.operators place taken ++ ops) = some o)
    (hbehind : firstTooDeep? ctx.maxDepth ops = some o →
      Stops (f (some e)) ctx rest (tokens[o.place + 1]?.getD ctx.stop)) :
    Stops (Reading.attempt (term ctx.size taken) >>= f) ctx (tokens.drop place)
      (tokens[o.place + 1]?.getD ctx.stop) := by
  rw [firstTooDeep?_append] at ho
  cases hterm : firstTooDeep? ctx.maxDepth (d.operators place taken) with
  | some o' =>
      rw [hterm, Option.some_or] at ho
      injection ho with ho
      subst ho
      exact (term_stops h h.bounded hspells hterm).attempt.bind_left _
  | none =>
      rw [hterm, Option.none_or] at ho
      have hdepth := (Term.levels_le_iff place htaken).mp (firstTooDeep?_eq_none_iff.mp hterm)
      have hgives := gives_attempt_some.mpr
        (term_complete taken h h.bounded hfits hdepth hexpr hspells hnext)
      have hclean := (Honest.attempt (Honest.term ctx.size taken) ctx _).mp ⟨e, hgives.1⟩
      exact .bind hgives hclean (hbehind ho)

/-- A chain stops behind the first operator that takes a level too many. -/
theorem chain_stops {left e : Expr} {links : List (LogicalOp × Grammar.Term)}
    (h : Ready ctx (tokens.drop place)) (hfuel : (tokens.drop place).length < fuel)
    (hfits : ∀ link ∈ links, link.2.Fits) (hfold : links.foldl join (some left) = some e)
    (hspells : Spells (tokens.drop place) (linkTerminals links) [])
    (ho : firstTooDeep? ctx.maxDepth (linkOperators place taken links) = some o) :
    Stops (chain fuel taken (some left)) ctx (tokens.drop place)
      (tokens[o.place + 1]?.getD ctx.stop) := by
  induction links generalizing place fuel taken left with
  | nil => cases ho
  | cons link links ih =>
      obtain ⟨fuel, rfl⟩ := Nat.exists_eq_succ_of_ne_zero (Nat.ne_zero_of_lt hfuel)
      obtain ⟨op, d⟩ := link
      obtain ⟨right, hexpr, hfold⟩ := foldl_join_cons_eq_some_iff.mp hfold
      obtain ⟨hfit, hfits⟩ := List.forall_mem_cons.mp hfits
      rw [linkTerminals_cons] at hspells
      obtain ⟨mid, hop, hspells⟩ := spells_cons_append.mp hspells
      obtain rfl := tail_of_spells hop
      have hready := h.tail
      rw [List.tail_drop] at hspells hready
      rw [chain_succ, stops_peek_bind, (operatorOf?_eq_some_iff h).mpr hop]
      dsimp only
      rw [stops_pass_bind, List.tail_drop]
      apply Stops.remark_bind
      by_cases htaken : ctx.maxDepth ≤ taken
      · rw [linkOperators, firstTooDeep?_cons_of_lt _ (Nat.lt_succ_of_le htaken)] at ho
        injection ho with ho
        subst ho
        rw [← headD_drop]
        exact (Stops.enter htaken).bind_left _
      · have hlt := Nat.not_le.mp htaken
        rw [linkOperators, firstTooDeep?_cons_of_le _ hlt] at ho
        apply Stops.enter_bind hlt
        rw [stops_size_bind]
        obtain ⟨mid, hd, hlinks⟩ := spells_append.mp hspells
        have hmid := hready.of_spells hd
        refine .term_bind hready hfit hlt hexpr hd (links_next_ne_dot hmid hlinks) ho fun ho => ?_
        have hlength := hop.length_lt
        have hlength' := hd.length_add
        obtain rfl : mid = tokens.drop (place + 1 + d.terminals.length) := by
          rw [hd.eq_drop, List.drop_drop]
        refine ih hmid ?_ hfits hfold hlinks ho
        rw [List.tail_drop] at hlength
        omega

/-- Reading a rule stops behind the first operator that takes a level too many. -/
theorem expression_stops {d : Chain} {e : Expr} (h : Ready ctx ts)
    (hfits : ∀ t ∈ d.terms, t.Fits) (hexpr : d.expr? = some e)
    (hspells : Spells ts d.terminals [])
    (ho : firstTooDeep? ctx.maxDepth d.operators = some o) :
    Stops expression ctx ts (ts[o.place + 1]?.getD ctx.stop) := by
  obtain ⟨first, links⟩ := d
  obtain ⟨hfirst, hfits⟩ := List.forall_mem_cons.mp hfits
  obtain ⟨mid, hd, hlinks⟩ := spells_append.mp hspells
  have hmid := h.of_spells hd
  rw [Chain.operators] at ho
  rw [Chain.expr?] at hexpr
  cases hleft : first.expr? with
  | none =>
      rw [hleft, foldl_join_none] at hexpr
      cases hexpr
  | some left =>
      rw [hleft] at hexpr
      rw [expression_eq, stops_size_bind]
      have hready : Ready ctx (ts.drop 0) := h
      refine .term_bind hready hfirst (Nat.zero_le _) hleft hd (links_next_ne_dot hmid hlinks) ho
        fun ho => ?_
      obtain rfl := hd.eq_drop
      rw [stops_size_bind]
      exact chain_stops hmid hmid.bounded (List.forall_mem_map.mp hfits) hexpr hlinks ho

end TraceCheck.Reading

namespace TraceCheck

open TraceCheck.Reading TraceCheck.Grammar

/-! ## Verdicts -/

variable {l : Limits} {source : String} {d : Grammar.Chain}

/-- The verdict on a rule with a derivation, when expressions may nest to some depth.  The
rule is valid when the operators in front of each term and its own `not` are no more than
that depth, and its expression is at most about twice as deep.  Otherwise there is one
error and no expression, and the error is placed at the token behind the first operator
that takes a level too many. -/
structure LimitsNesting (d : Grammar.Chain) (tokens : List Token) (D : Nat) (v : Verdict) :
    Prop where
  valid_iff : v.isValid = true ↔ ∀ i t, d.terms[i]? = some t → i + t.nots ≤ D
  accepted : v.isValid = true → ∃ e, v.ast = some e ∧ e.depth ≤ 2 * D + 1
  refused : v.isValid = false → v.ast = none ∧ ∃ o operator next,
    firstTooDeep? D d.operators = some o ∧ tokens[o.place]? = some operator ∧
      IsOperatorKind operator.kind ∧ tokens[o.place + 1]? = some next ∧
      v.errors = [Fault.diagnostic ⟨.tooDeep D, next⟩]

theorem tokenize_maxRecursionDepth_errors_iff (hl : l.expired = false) (D : Nat) :
    (tokenize { l with maxRecursionDepth := D } source).errors = [] ↔
      (tokenize l source).errors = [] :=
  (tokenize_errors_eq_nil_iff (l := { l with maxRecursionDepth := D }) hl).trans
    (tokenize_errors_eq_nil_iff hl).symm

/-- The limit on nesting makes no difference for the tokens of a text. -/
theorem tokenize_maxRecursionDepth (hl : l.expired = false)
    (hlex : (tokenize l source).errors = []) (D : Nat) :
    tokenize { l with maxRecursionDepth := D } source = tokenize l source := by
  let limited : Limits := { l with maxRecursionDepth := D }
  let wider : Limits := { l with maxRecursionDepth := max l.maxRecursionDepth D }
  have hwithin : l.IsWithin wider :=
    ⟨Nat.le_refl _, Nat.le_refl _, Nat.le_refl _, Nat.le_max_left _ _⟩
  have hlimited : limited.IsWithin wider :=
    ⟨Nat.le_refl _, Nat.le_refl _, Nat.le_refl _, Nat.le_max_right _ _⟩
  have hlex' : (tokenize limited source).errors = [] :=
    (tokenize_maxRecursionDepth_errors_iff hl D).mpr hlex
  have hsame : tokenize wider source = tokenize l source :=
    tokenize_of_isWithin hwithin hl hl hlex
  have hsame' : tokenize wider source = tokenize limited source :=
    tokenize_of_isWithin hlimited hl hl hlex'
  exact hsame'.symm.trans hsame

/-- The tokens at an operator of a rule and behind it. -/
theorem tokens_at_operator {tokens : List Token} {w : List Terminal} {ops : List Operator}
    {o : Operator} (h : StandIn 0 w ops) (ho : o ∈ ops) (hw : tokens.map Token.terminal = w) :
    ∃ operator next, tokens[o.place]? = some operator ∧ IsOperatorKind operator.kind ∧
      tokens[o.place + 1]? = some next := by
  obtain ⟨i, a, hplace, hlength, hget, ha⟩ := h.inside o ho
  obtain rfl : o.place = i := by omega
  rw [← hw, List.getElem?_map] at hget
  obtain ⟨operator, hoperator, rfl⟩ := Option.map_eq_some_iff.mp hget
  rw [← hw, List.length_map] at hlength
  exact ⟨operator, tokens[o.place + 1], hoperator, ha, List.getElem?_eq_getElem hlength⟩

/-- The verdict on a rule with an operator that takes a level too many. -/
theorem check_of_firstTooDeep? {e : Expr} {o : Operator} (hl : l.expired = false)
    (hlex : (tokenize l source).errors = []) (hd : Derives l source d)
    (hfits : ∀ t ∈ d.terms, t.Fits) (hexpr : d.expr? = some e)
    (ho : firstTooDeep? l.maxRecursionDepth d.operators = some o) :
    (check l source).ast = none ∧ ∃ operator next,
      (tokenize l source).tokens[o.place]? = some operator ∧ IsOperatorKind operator.kind ∧
        (tokenize l source).tokens[o.place + 1]? = some next ∧
        (check l source).errors = [Fault.diagnostic ⟨.tooDeep l.maxRecursionDepth, next⟩] := by
  obtain ⟨body, line, column, htokens, hfatal, hbody, -⟩ := tokenize_of_no_errors hl hlex
  have hspells := (derives_iff_spells htokens).mp hd
  have hready := ready_body l line column hbody
  have hbodyOf : bodyOf (body ++ [.eof line column]) = body :=
    bodyOf_append (fun t ht => (hbody t ht).1) rfl
  obtain ⟨operator, next, hoperator, hkind, hnext⟩ := tokens_at_operator d.standIn_operators
    (List.mem_of_find?_eq_some ho) (spells_end.mp hspells)
  have hne : bodyOf (body ++ [.eof line column]) ≠ [] := by
    rw [hbodyOf]
    rintro rfl
    cases hoperator
  have hstops : Stops expression (readingContext l (body ++ [.eof line column]) body) body
      next := by
    have hstops := expression_stops hready hfits hexpr hspells ho
    rwa [hnext] at hstops
  have hread : readTokens l (body ++ [.eof line column]) =
      expression (readingContext l (body ++ [.eof line column]) body) body := by
    rw [readTokens, hbodyOf]
  have hast : (readTokens l (body ++ [.eof line column])).expr? = none := by
    rw [Outcome.expr?, hread, hstops.result]
  have hfaults : (readTokens l (body ++ [.eof line column])).allFaults =
      [⟨.tooDeep l.maxRecursionDepth, next⟩] := by
    rw [Outcome.allFaults, Outcome.trailing_of_none hast, List.append_nil, hread]
    exact hstops.faults
  rw [check_eq_checkTokens hfatal hlex htokens, checkTokens_eq_readTokens [] hl hne, htokens]
  refine ⟨hast, operator, next, ?_, hkind, ?_, ?_⟩
  · rw [List.getElem?_append_left (List.getElem?_eq_some_iff.mp hoperator).1, hoperator]
  · rw [List.getElem?_append_left (List.getElem?_eq_some_iff.mp hnext).1, hnext]
  · rw [hfaults]
    rfl

/-- The limit on nesting is exact.  A text that is a valid rule within some limit on nesting
has one derivation, and within each limit its verdict is the one that the levels of the
operators of this derivation call for. -/
theorem check_nesting (l : Limits) (source : String) (hl : l.expired = false)
    (hvalid : ∃ depth, (check { l with maxRecursionDepth := depth } source).isValid = true) :
    ∃ d, (∀ d', Derives l source d' ↔ d' = d) ∧
      d.operators.Pairwise (fun o o' => o.place < o'.place) ∧
      ∀ D, LimitsNesting d (tokenize l source).tokens D
        (check { l with maxRecursionDepth := D } source) := by
  obtain ⟨depth, hvalid⟩ := hvalid
  have hlex := (tokenize_maxRecursionDepth_errors_iff hl depth).mp
    (errors_eq_nil_of_isValid hvalid)
  have hlexD (D : Nat) := (tokenize_maxRecursionDepth_errors_iff hl D).mpr hlex
  have htokenize (D : Nat) := tokenize_maxRecursionDepth hl hlex D
  have hderives (D : Nat) (d : Grammar.Chain) :
      Derives { l with maxRecursionDepth := D } source d ↔ Derives l source d := by
    rw [Derives, htokenize D, Derives]
  obtain ⟨hiff, hunique⟩ := check_isValid_iff_derives { l with maxRecursionDepth := depth }
    source hl (hlexD depth)
  obtain ⟨d, hd, hfits⟩ := hiff.mp hvalid
  obtain ⟨hunique, e, hexpr, -⟩ := hunique d hd hfits
  refine ⟨d, fun d' => ⟨fun hd' => ?_, ?_⟩, d.standIn_operators.ascending, fun D => ?_⟩
  · exact hunique d' ((hderives depth d').mpr hd')
  · rintro rfl
    exact (hderives depth _).mp hd
  · have hdD := (hderives D d).mpr ((hderives depth d).mp hd)
    cases hfirst : firstTooDeep? D d.operators with
    | none =>
        have hlevels := (d.levels_le_iff D).mp (firstTooDeep?_eq_none_iff.mp hfirst)
        obtain ⟨e', hexpr', hvalid', hast⟩ := check_of_derives
          (l := { l with maxRecursionDepth := D }) hl (hlexD D) hdD ⟨hfits.1, hlevels⟩
        refine ⟨⟨fun _ => hlevels, fun _ => hvalid'⟩, fun _ => ?_, fun h => ?_⟩
        · exact ⟨e', hast, Chain.depth_of_expr? hexpr' hlevels⟩
        · rw [hvalid'] at h
          cases h
    | some o =>
        obtain ⟨hast, operator, next, hoperator, hkind, hnext, herrors⟩ := check_of_firstTooDeep?
          (l := { l with maxRecursionDepth := D }) hl (hlexD D) hdD hfits.1 hexpr hfirst
        rw [htokenize D] at hoperator hnext
        have hinvalid : (check { l with maxRecursionDepth := D } source).isValid = false := by
          rw [Verdict.isValid, herrors]
          rfl
        have hdeep : ¬∀ i t, d.terms[i]? = some t → i + t.nots ≤ D := by
          rw [← d.levels_le_iff D, ← firstTooDeep?_eq_none_iff, hfirst]
          exact Option.some_ne_none o
        refine ⟨?_, fun h => ?_, fun _ => ⟨hast, o, operator, next, hfirst, hoperator, hkind,
          hnext, herrors⟩⟩
        · rw [hinvalid]
          exact iff_of_false Bool.false_ne_true hdeep
        · rw [hinvalid] at h
          cases h

/-- A rule with three levels, in the second of its three terms. -/
theorem check_nesting_not :
    let source := "trace.has(a) and not not trace.has(b) or trace.has(c)"
    ({} : Limits).expired = false ∧
      (∃ depth, (check { maxRecursionDepth := depth } source).isValid = true) ∧
      ∃ d, (∀ d', Derives {} source d' ↔ d' = d) ∧
        d.operators.Pairwise (fun o o' => o.place < o'.place) ∧
        ∀ D, LimitsNesting d (tokenize {} source).tokens D
          (check { maxRecursionDepth := D } source) := by
  intro source
  have hvalid : (check { maxRecursionDepth := 3 } source).isValid = true := by decide +kernel
  exact ⟨rfl, ⟨3, hvalid⟩, check_nesting {} source rfl ⟨3, hvalid⟩⟩

end TraceCheck
