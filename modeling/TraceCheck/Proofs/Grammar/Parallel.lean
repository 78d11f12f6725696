import TraceCheck.Proofs.Grammar.Reports

/-!
# Steps on the same terminals

Tokens of the same kinds and spellings have the same terminals, wherever they are.  A step of
reading that meets the same terminals in two places notes the same apart from the places,
leaves the same terminals and has the same result: places are carried along, but no step asks
for them.
-/

namespace TraceCheck.Reading

variable {α β : Type}

/-! ## The same apart from places -/

/-- Tokens of the same kinds and spellings, wherever they are. -/
def SameTerminals (ts ts' : List Token) : Prop :=
  ts.map Token.terminal = ts'.map Token.terminal

/-- Contexts that differ in places only. -/
structure Context.Parallel (ctx ctx' : Context) : Prop where
  maxDepth : ctx.maxDepth = ctx'.maxDepth
  stop : ctx.stop.terminal = ctx'.stop.terminal
  size : ctx.size = ctx'.size

/-- Two results that are related, or two times the same reason why there is none. -/
inductive Related (R : α → α → Prop) : Except Abort α → Except Abort α → Prop
  | ok {a a' : α} : R a a' → Related R (.ok a) (.ok a')
  | error (e : Abort) : Related R (.error e) (.error e)

/-- Outcomes that note the same apart from places and leave the same terminals. -/
structure Outcome.Parallel (R : α → α → Prop) (out out' : Outcome α) : Prop where
  findings : out.findings.map Finding.advice = out'.findings.map Finding.advice
  rest : SameTerminals out.rest out'.rest
  result : Related R out.result out'.result

/-- Steps whose outcomes on the same terminals are the same apart from places. -/
def Step.Parallel (R : α → α → Prop) (p p' : Step α) : Prop :=
  ∀ ctx ctx' ts ts', ctx.Parallel ctx' → SameTerminals ts ts' →
    (p ctx ts).Parallel R (p' ctx' ts')

theorem terminal_eq_iff {t t' : Token} :
    t.terminal = t'.terminal ↔ t.kind = t'.kind ∧ t.text = t'.text := by
  rw [Token.terminal, Token.terminal, Terminal.mk.injEq]

theorem SameTerminals.eq_nil {ts' : List Token} (h : SameTerminals [] ts') : ts' = [] :=
  List.map_eq_nil_iff.mp h.symm

theorem SameTerminals.exists_cons {t : Token} {us ts' : List Token}
    (h : SameTerminals (t :: us) ts') :
    ∃ t' us', ts' = t' :: us' ∧ (t.kind = t'.kind ∧ t.text = t'.text) ∧ SameTerminals us us' := by
  obtain ⟨t', us', rfl, hterminal, hus⟩ := List.map_eq_cons_iff.mp (Eq.symm h)
  exact ⟨t', us', rfl, terminal_eq_iff.mp hterminal.symm, hus.symm⟩

theorem SameTerminals.length_eq {ts ts' : List Token} (h : SameTerminals ts ts') :
    ts.length = ts'.length := by
  have hlengths := congrArg List.length h
  rwa [List.length_map, List.length_map] at hlengths

theorem SameTerminals.tail {ts ts' : List Token} (h : SameTerminals ts ts') :
    SameTerminals ts.tail ts'.tail := by
  have htails := congrArg List.tail h
  rwa [← List.map_tail, ← List.map_tail] at htails

theorem SameTerminals.headD {ts ts' : List Token} {stop stop' : Token}
    (h : SameTerminals ts ts') (hstop : stop.terminal = stop'.terminal) :
    (ts.headD stop).kind = (ts'.headD stop').kind ∧
      (ts.headD stop).text = (ts'.headD stop').text := by
  cases ts with
  | nil =>
      rw [h.eq_nil]
      exact terminal_eq_iff.mp hstop
  | cons t us =>
      obtain ⟨t', us', rfl, hsame, -⟩ := h.exists_cons
      exact hsame

/-- What the kinds of tokens tell apart is told apart at the same point. -/
theorem SameTerminals.dropWhile {ts ts' : List Token} {p : Token → Bool}
    (hp : ∀ t t', t.kind = t'.kind → p t = p t') (h : SameTerminals ts ts') :
    SameTerminals (ts.dropWhile p) (ts'.dropWhile p) := by
  induction ts generalizing ts' with
  | nil =>
      rw [h.eq_nil]
      rfl
  | cons t us ih =>
      obtain ⟨t', us', rfl, ⟨hkind, -⟩, hus⟩ := h.exists_cons
      rw [List.dropWhile_cons, List.dropWhile_cons, hp t t' hkind]
      split
      · exact ih hus
      · exact h

/-! ## Elementary steps -/

variable {R : α → α → Prop} {S : β → β → Prop}

namespace Parallel

theorem pure {a a' : α} (h : R a a') :
    (Pure.pure a : Step α).Parallel R (Pure.pure a') :=
  fun _ _ _ _ _ hts => ⟨rfl, hts, .ok h⟩

theorem bind {p p' : Step α} {f f' : α → Step β} (hp : p.Parallel R p')
    (hf : ∀ a a', R a a' → (f a).Parallel S (f' a')) :
    (p >>= f).Parallel S (p' >>= f') := by
  intro ctx ctx' ts ts' hctx hts
  obtain ⟨hfindings, hrest, hresult⟩ := hp ctx ctx' ts ts' hctx hts
  cases hrun : p ctx ts with
  | mk found rest result =>
      cases hrun' : p' ctx' ts' with
      | mk found' rest' result' =>
          rw [hrun, hrun'] at hfindings hrest hresult
          cases hresult with
          | ok h =>
              obtain ⟨hfindings', hrest', hresult'⟩ := hf _ _ h ctx ctx' rest rest' hctx hrest
              rw [run_bind_of_ok hrun, run_bind_of_ok hrun']
              refine ⟨?_, hrest', hresult'⟩
              rw [List.map_append, List.map_append, hfindings, hfindings']
          | error e =>
              rw [run_bind_of_error hrun, run_bind_of_error hrun']
              exact ⟨hfindings, hrest, .error e⟩

theorem bind_eq {p p' : Step α} {f f' : α → Step β} (hp : p.Parallel Eq p')
    (hf : ∀ a, (f a).Parallel S (f' a)) : (p >>= f).Parallel S (p' >>= f') :=
  bind hp fun a _ h => h ▸ hf a

theorem bind_pure {p p' : Step α} (f : α → β) (hp : p.Parallel Eq p') :
    (p >>= fun a => Pure.pure (f a)).Parallel Eq (p' >>= fun a => Pure.pure (f a)) :=
  bind_eq hp fun _ => pure rfl

theorem ite {c : Prop} [Decidable c] {p p' q q' : Step α} (hp : p.Parallel R p')
    (hq : q.Parallel R q') : (if c then p else q).Parallel R (if c then p' else q') := by
  split
  · exact hp
  · exact hq

theorem peek_bind {f f' : Token → Step β}
    (hf : ∀ t t', t.kind = t'.kind → t.text = t'.text → (f t).Parallel S (f' t')) :
    (peek >>= f).Parallel S (peek >>= f') := by
  intro ctx ctx' ts ts' hctx hts
  obtain ⟨hkind, htext⟩ := hts.headD hctx.stop
  exact hf _ _ hkind htext ctx ctx' ts ts' hctx hts

theorem pass : pass.Parallel Eq pass :=
  fun _ _ _ _ _ hts => ⟨rfl, hts.tail, .ok rfl⟩

theorem remaining : remaining.Parallel SameTerminals remaining :=
  fun _ _ _ _ _ hts => ⟨rfl, hts, .ok hts⟩

theorem goOn {us us' : List Token} (h : SameTerminals us us') :
    (goOn us).Parallel Eq (goOn us') :=
  fun _ _ _ _ _ _ => ⟨rfl, h, .ok rfl⟩

theorem size : size.Parallel Eq size :=
  fun _ _ _ _ hctx hts => ⟨rfl, hts, .ok hctx.size⟩

theorem remark (ls : List Lint) (first first' : Token) (length length' : Nat) :
    (remark ls first length).Parallel Eq (remark ls first' length') := by
  refine fun _ _ _ _ _ hts => ⟨?_, hts, .ok rfl⟩
  unfold Reading.remark
  rw [List.map_map, List.map_map]
  rfl

theorem fail (e : ParseError) (place place' : Token) :
    (fail e place : Step α).Parallel R (fail e place') :=
  fun _ _ _ _ _ hts => ⟨rfl, hts, .error .failed⟩

theorem enter (taken : Nat) : (enter taken).Parallel Eq (enter taken) := by
  intro ctx ctx' ts ts' hctx hts
  unfold Reading.enter
  rw [hctx.maxDepth]
  split
  · exact ⟨rfl, hts, .error .stopped⟩
  · exact ⟨rfl, hts, .ok rfl⟩

/-- Messages quote the spelling of a token and not its place. -/
theorem describe_eq {t t' : Token} (hkind : t.kind = t'.kind) (htext : t.text = t'.text) :
    t.describe = t'.describe := by
  unfold Token.describe
  rw [hkind, htext]

theorem unexpected (what : Expectation) :
    (unexpected what : Step α).Parallel R (unexpected what) := by
  apply peek_bind
  intro t t' hkind htext
  rw [describe_eq hkind htext]
  exact fail _ t t'

theorem expect (kind : TokenKind) (what : Expectation) :
    (expect kind what).Parallel Eq (expect kind what) := by
  apply peek_bind
  intro t t' hkind _
  rw [hkind]
  exact ite pass (unexpected what)

/-! ## Names -/

/-- Names of the same words. -/
structure SameName (n n' : DottedName) : Prop where
  first : n.first.text = n'.first.text
  segments : SameTerminals n.segments n'.segments

theorem SameName.text_eq {n n' : DottedName} (h : SameName n n') : n.text = n'.text := by
  have hsegments : n.segments.map Token.text = n'.segments.map Token.text := by
    have htexts := congrArg (List.map Terminal.text) h.segments
    rwa [List.map_map, List.map_map] at htexts
  have hdotted := congrArg (List.map ("." ++ ·)) hsegments
  rw [List.map_map, List.map_map] at hdotted
  rw [DottedName.text, DottedName.text, h.first]
  exact congrArg (n'.first.text ++ String.join ·) hdotted

theorem splitSegments {ts ts' : List Token} (h : SameTerminals ts ts') :
    SameTerminals (DottedName.splitSegments ts).1 (DottedName.splitSegments ts').1 ∧
      SameTerminals (DottedName.splitSegments ts).2 (DottedName.splitSegments ts').2 := by
  induction ts using DottedName.splitSegments.induct generalizing ts' with
  | case1 dot word rest hname words left hsplit ih =>
      obtain ⟨dot', us', rfl, ⟨hdot, -⟩, hus⟩ := h.exists_cons
      obtain ⟨word', rest', rfl, ⟨hword, htext⟩, hrest⟩ := hus.exists_cons
      have hname' : dot'.kind = .dot ∧ word'.kind.isWord := by
        rwa [← hdot, ← hword]
      obtain ⟨hwords, hleft⟩ := ih hrest
      rw [DottedName.splitSegments, DottedName.splitSegments, if_pos hname, if_pos hname']
      refine ⟨?_, hleft⟩
      exact List.cons_eq_cons.mpr ⟨terminal_eq_iff.mpr ⟨hword, htext⟩, hwords⟩
  | case2 dot word rest hname =>
      obtain ⟨dot', us', rfl, ⟨hdot, -⟩, hus⟩ := h.exists_cons
      obtain ⟨word', rest', rfl, ⟨hword, -⟩, hrest⟩ := hus.exists_cons
      have hname' : ¬(dot'.kind = .dot ∧ word'.kind.isWord) := by
        rwa [← hdot, ← hword]
      rw [DottedName.splitSegments, DottedName.splitSegments, if_neg hname, if_neg hname']
      exact ⟨rfl, h⟩
  | case3 ts hshort =>
      have hshort' : ∀ dot word rest, ts' = dot :: word :: rest → False := by
        rintro dot' word' rest' rfl
        obtain ⟨dot, us, rfl, -, hus⟩ := SameTerminals.exists_cons h.symm
        obtain ⟨word, rest, rfl, -, -⟩ := SameTerminals.exists_cons hus
        exact hshort dot word rest rfl
      rw [DottedName.splitSegments.eq_2 ts hshort, DottedName.splitSegments.eq_2 ts' hshort']
      exact ⟨rfl, h⟩

theorem dottedName (what : Expectation) :
    (dottedName what).Parallel SameName (dottedName what) := by
  apply peek_bind
  intro t t' hkind htext
  rw [hkind]
  apply ite (unexpected what)
  apply bind_eq pass
  intro _
  apply bind remaining
  intro us us' hus
  obtain ⟨hwords, hleft⟩ := splitSegments hus
  exact bind_eq (goOn hleft) fun _ => pure ⟨htext, hwords⟩

theorem spanName : spanName.Parallel Eq spanName := by
  apply bind (dottedName _)
  intro n n' hname
  rw [hname.text_eq]
  exact bind_pure _ (remark _ _ _ _ _)

theorem spanArgument : spanArgument.Parallel Eq spanArgument := by
  apply bind_eq (expect _ _)
  intro _
  apply bind_eq spanName
  intro n
  exact bind_pure _ (expect _ _)

/-! ## Values -/

theorem comparatorOf?_eq {t t' : Token} (hkind : t.kind = t'.kind) (htext : t.text = t'.text) :
    comparatorOf? t = comparatorOf? t' := by
  unfold comparatorOf?
  rw [hkind, htext]

theorem comparator : comparator.Parallel Eq comparator := by
  apply peek_bind
  intro t t' hkind htext
  rw [comparatorOf?_eq hkind htext]
  split
  · exact bind_pure _ pass
  · exact unexpected _

theorem scalar : scalar.Parallel Eq scalar := by
  apply peek_bind
  intro t t' hkind htext
  rw [hkind, htext]
  split
  · exact bind_pure _ pass
  · exact bind_pure _ pass
  · exact bind_pure _ pass
  · split
    · exact bind_pure _ pass
    · exact unexpected _
  · exact fail _ _ _
  · exact unexpected _

theorem listItems (fuel : Nat) : (listItems fuel).Parallel Eq (listItems fuel) := by
  induction fuel with
  | zero => exact unexpected _
  | succ fuel ih =>
      apply bind_eq scalar
      intro x
      apply peek_bind
      intro t t' hkind _
      rw [hkind]
      split
      · apply bind_eq pass
        intro _
        exact bind_pure _ ih
      · exact bind_pure _ pass
      · exact unexpected _

theorem listLiteral : listLiteral.Parallel Eq listLiteral := by
  apply peek_bind
  intro t t' hkind _
  rw [hkind]
  apply ite
  · exact bind_pure _ pass
  · apply bind_eq size
    intro n
    exact bind_pure _ (listItems n)

theorem patternLiteral : patternLiteral.Parallel Eq patternLiteral := by
  apply peek_bind
  intro t t' _ htext
  rw [htext]
  apply bind_eq pass
  intro _
  split
  · exact pure rfl
  · exact fail _ _ _

theorem value (op : Comparator) : (value op).Parallel Eq (value op) := by
  apply peek_bind
  intro t t' hkind _
  rw [hkind]
  apply ite patternLiteral
  apply ite
  · apply ite _ (fail _ _ _)
    apply bind_eq pass
    intro _
    exact listLiteral
  · apply bind_eq scalar
    intro x
    split
    · exact pure rfl
    · exact ite (fail _ _ _) (pure rfl)

/-! ## Checks -/

theorem isNegation_eq {ts ts' : List Token} (h : SameTerminals ts ts') :
    isNegation ts = isNegation ts' := by
  cases ts with
  | nil => rw [h.eq_nil]
  | cons t us =>
      obtain ⟨t', us', rfl, ⟨hkind, htext⟩, hus⟩ := h.exists_cons
      have hvalue : us.head?.any beginsValue = us'.head?.any beginsValue := by
        cases us with
        | nil => rw [hus.eq_nil]
        | cons s rest =>
            obtain ⟨s', rest', rfl, ⟨hkind', -⟩, -⟩ := hus.exists_cons
            rw [List.head?_cons, List.head?_cons, Option.any_some, Option.any_some, beginsValue,
              beginsValue, hkind']
      rw [isNegation, isNegation, isComparatorWord, isComparatorWord, hvalue, hkind,
        comparatorOf?_eq hkind htext]

theorem negation : negation.Parallel Eq negation := by
  apply bind remaining
  intro ts ts' hts
  apply peek_bind
  intro t t' hkind _
  rw [hkind, isNegation_eq hts.tail]
  exact ite (bind_pure _ pass) (pure rfl)

theorem attributeTest {n n' : DottedName} (hname : SameName n n') :
    (attributeTest n).Parallel Eq (attributeTest n') := by
  apply peek_bind
  intro t t' hkind _
  rw [hkind]
  apply ite (pure rfl)
  apply bind_eq comparator
  intro op
  apply bind_eq (value op)
  intro x
  rw [hname.text_eq]
  exact bind_pure _ (remark _ _ _ _ _)

theorem clause : clause.Parallel Eq clause := by
  apply bind_eq (expect _ _)
  intro _
  apply bind_eq negation
  intro negated
  apply bind (dottedName _)
  intro n n' hname
  apply bind_eq (attributeTest hname)
  intro test
  rw [hname.text_eq]
  exact bind_pure _ (expect _ _)

theorem clauses (fuel : Nat) : (clauses fuel).Parallel Eq (clauses fuel) := by
  induction fuel with
  | zero => exact pure rfl
  | succ fuel ih =>
      apply peek_bind
      intro t t' hkind _
      rw [hkind]
      apply ite _ (pure rfl)
      apply bind_eq pass
      intro _
      apply bind_eq (expect _ _)
      intro _
      apply bind_eq clause
      intro c
      exact bind_pure _ ih

theorem countOperand (op : Comparator) : (countOperand op).Parallel Eq (countOperand op) := by
  apply peek_bind
  intro t t' hkind htext
  rw [hkind, htext, describe_eq hkind htext]
  split
  · apply bind_eq pass
    intro _
    split
    · exact bind_pure _ (remark _ _ _ _ _)
    · exact fail _ _ _
  · apply bind_eq pass
    intro _
    apply bind_eq (expect _ _)
    intro _
    apply bind_eq (expect _ _)
    intro _
    exact bind_pure _ spanArgument
  · exact fail _ _ _

theorem spanCheck : spanCheck.Parallel Eq spanCheck := by
  apply bind_eq (expect _ _)
  intro _
  apply bind_eq (expect _ _)
  intro _
  apply peek_bind
  intro t t' hkind _
  rw [hkind]
  split
  · apply bind_eq pass
    intro _
    apply bind_eq spanArgument
    intro name
    apply bind_eq size
    intro n
    exact bind_pure _ (clauses n)
  · apply bind_eq pass
    intro _
    apply bind_eq spanArgument
    intro name
    apply peek_bind
    intro t t' _ _
    apply bind_eq comparator
    intro op
    apply ite _ (fail _ _ _)
    exact bind_pure _ (countOperand op)
  · exact unexpected _

/-! ## Expressions -/

theorem term (fuel taken : Nat) : (term fuel taken).Parallel Eq (term fuel taken) := by
  induction fuel generalizing taken with
  | zero => exact unexpected _
  | succ fuel ih =>
      rw [term_succ]
      apply peek_bind
      intro t t' hkind _
      rw [hkind]
      apply ite _ spanCheck
      apply bind_eq pass
      intro _
      apply bind_eq (enter taken)
      intro _
      exact bind_pure _ (ih (taken + 1))

theorem operatorOf?_eq {t t' : Token} (hkind : t.kind = t'.kind) :
    operatorOf? t = operatorOf? t' := by
  unfold operatorOf?
  rw [hkind]

theorem attempt {p p' : Step α} (hp : p.Parallel Eq p') :
    (attempt p).Parallel Eq (attempt p') := by
  intro ctx ctx' ts ts' hctx hts
  obtain ⟨hfindings, hrest, hresult⟩ := hp ctx ctx' ts ts' hctx hts
  unfold Reading.attempt
  cases hrun : p ctx ts with
  | mk found rest result =>
      cases hrun' : p' ctx' ts' with
      | mk found' rest' result' =>
          rw [hrun, hrun'] at hfindings hrest hresult
          cases hresult with
          | ok h => exact ⟨hfindings, hrest, .ok (congrArg some h)⟩
          | error e =>
              cases e with
              | failed =>
                  have hoperator (t t' : Token) (hkind : t.kind = t'.kind) :
                      (operatorOf? t).isNone = (operatorOf? t').isNone := by
                    rw [operatorOf?_eq hkind]
                  exact ⟨hfindings, hrest.dropWhile hoperator, .ok rfl⟩
              | stopped => exact ⟨hfindings, hrest, .error .stopped⟩
              | timedOut => exact ⟨hfindings, hrest, .error .timedOut⟩

theorem chain (fuel taken : Nat) (left : Option Expr) :
    (chain fuel taken left).Parallel Eq (chain fuel taken left) := by
  induction fuel generalizing taken left with
  | zero => exact pure rfl
  | succ fuel ih =>
      rw [chain_succ]
      apply peek_bind
      intro t t' hkind _
      rw [operatorOf?_eq hkind]
      split
      · exact pure rfl
      · apply bind_eq pass
        intro _
        apply bind_eq (remark _ _ _ _ _)
        intro _
        apply bind_eq (enter taken)
        intro _
        apply bind_eq size
        intro n
        apply bind_eq (attempt (term n (taken + 1)))
        intro right
        exact ih (taken + 1) _

theorem expression : expression.Parallel Eq expression := by
  rw [expression_eq]
  apply bind_eq size
  intro n
  apply bind_eq (attempt (term n 0))
  intro first
  apply bind_eq size
  intro n
  exact chain n 0 first

end Parallel

end TraceCheck.Reading
