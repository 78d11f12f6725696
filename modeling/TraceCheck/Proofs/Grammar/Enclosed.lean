import TraceCheck.Proofs.Grammar.Endings

/-!
# What stands in parentheses

In front of a token that closes a parenthesis a step looks no further than that token.  So
names, values and clauses in parentheses are read alike whatever stands behind these, and
what is in front of the endings may itself end with a closing parenthesis.
-/

namespace TraceCheck.Reading

variable {α β : Type} {e : Endings} {front : List Token}

/-! ## In parentheses -/

/-- Both endings begin with the same token, which closes a parenthesis. -/
structure Endings.ClosedBy (e : Endings) (close : Token) : Prop where
  kind : close.kind = .rParen
  more : ∃ rest, e.more = close :: rest
  more' : ∃ rest, e.more' = close :: rest

section Closed

variable {close : Token} (hclosed : e.ClosedBy close)

include hclosed

theorem Endings.ClosedBy.headD_append (front : List Token) :
    (front ++ e.more').headD e.ctx'.stop = (front ++ e.more).headD e.ctx.stop := by
  obtain ⟨-, ⟨rest, hmore⟩, ⟨rest', hmore'⟩⟩ := hclosed
  rw [hmore, hmore']
  cases front <;> rfl

theorem FramedAt.peek_bind_closed {f f' : Token → Step β}
    (hf : ∀ t, FramedAt e (f t) (f' t) front) : FramedAt e (peek >>= f) (peek >>= f') front where
  shrinks := Step.Accountable.peek.shrinks.bind fun t => (hf t).shrinks
  same a left _ h := by
    rw [gives_peek_bind] at h
    rw [run_peek_bind, run_peek_bind, hclosed.headD_append,
      (hf _).same a left trivial h]

theorem FramedAt.pass_bind_closed {f f' : Unit → Step β} (hshrinks : (f ()).Shrinks)
    (hf : ∀ t front₁, front = t :: front₁ → FramedAt e (f ()) (f' ()) front₁) :
    FramedAt e (Reading.pass >>= f) (Reading.pass >>= f') front := by
  cases front with
  | nil =>
      refine ⟨Step.Accountable.pass.shrinks.bind fun _ => hshrinks, fun a left _ h => ?_⟩
      obtain ⟨rest, hmore⟩ := hclosed.more
      have hne : e.more ≠ [] := by
        rw [hmore]
        exact List.cons_ne_nil _ _
      exact absurd h (not_gives_pass_bind hshrinks hne)
  | cons t front₁ => exact FramedFor.pass_bind (hf t front₁ rfl)

theorem FramedAt.pass_pure_closed (a : α) :
    FramedAt e (Reading.pass >>= fun _ => Pure.pure a) (Reading.pass >>= fun _ => Pure.pure a)
      front :=
  FramedAt.pass_bind_closed hclosed (Step.Accountable.pure a).shrinks fun _ _ _ => .pure a

/-! ### Values -/

theorem FramedAt.scalar : FramedAt e scalar Reading.scalar front := by
  apply FramedAt.peek_bind_closed hclosed
  intro t
  cases hkind : t.kind with
  | string => exact FramedAt.pass_pure_closed hclosed _
  | true => exact FramedAt.pass_pure_closed hclosed _
  | false => exact FramedAt.pass_pure_closed hclosed _
  | number =>
      cases hn : Decimal.readDouble? t.text with
      | some x => exact FramedAt.pass_pure_closed hclosed _
      | none => exact FramedAt.unexpected _
  | lBracket => exact FramedAt.fail _ _ _
  | _ => exact FramedAt.unexpected _

theorem FramedAt.listItems {n n' : Nat} (hn : front.length < n) (hn' : front.length < n') :
    FramedAt e (listItems n) (Reading.listItems n') front := by
  induction n generalizing n' front with
  | zero => exact absurd hn (Nat.not_lt_zero _)
  | succ n ih =>
      obtain ⟨n', rfl⟩ := Nat.exists_eq_succ_of_ne_zero (Nat.ne_zero_of_lt hn')
      apply FramedFor.bind (FramedAt.scalar hclosed)
      intro x front₁ hsuffix
      apply FramedAt.peek_bind_closed hclosed
      intro t
      cases hkind : t.kind with
      | comma =>
          have hshrinks := (Step.Accountable.bind_pure (x :: ·) (.listItems n)).shrinks
          refine FramedAt.pass_bind_closed hclosed hshrinks fun t front₂ hfront => ?_
          have hlength := hsuffix.length_le
          rw [hfront, List.length_cons] at hlength
          exact FramedFor.bind_pure _ (ih (by omega) (by omega))
      | rBracket => exact FramedAt.pass_pure_closed hclosed _
      | _ => exact FramedAt.unexpected _

theorem FramedAt.listLiteral (hbounds : e.Bounds front) :
    FramedAt e listLiteral Reading.listLiteral front := by
  apply FramedAt.peek_bind_closed hclosed
  intro t
  apply FramedFor.ite (FramedAt.pass_pure_closed hclosed _)
  apply FramedFor.size_bind fun n => (Step.Accountable.bind_pure _ (.listItems n)).shrinks
  exact FramedFor.bind_pure _ (FramedAt.listItems hclosed hbounds.1 hbounds.2)

theorem FramedAt.patternLiteral : FramedAt e patternLiteral Reading.patternLiteral front := by
  apply FramedAt.peek_bind_closed hclosed
  intro t
  cases hp : Pattern.ofText t.text with
  | ok p => exact FramedAt.pass_pure_closed hclosed _
  | error err =>
      exact FramedAt.pass_bind_closed hclosed (.fail _ _) fun _ _ _ => FramedAt.fail _ _ _

theorem FramedAt.value (op : Comparator) (hbounds : e.Bounds front) :
    FramedAt e (value op) (Reading.value op) front := by
  apply FramedAt.peek_bind_closed hclosed
  intro t
  apply FramedFor.ite (FramedAt.patternLiteral hclosed)
  apply FramedFor.ite
  · apply FramedFor.ite _ (FramedAt.fail _ _ _)
    refine FramedAt.pass_bind_closed hclosed Step.Accountable.listLiteral.shrinks ?_
    rintro t front₁ rfl
    exact FramedAt.listLiteral hclosed (hbounds.of_suffix (List.suffix_cons t front₁))
  · apply FramedFor.bind (FramedAt.scalar hclosed)
    intro x front₁ _
    cases x with
    | string s => exact FramedFor.pure _
    | _ => exact FramedFor.ite (FramedAt.fail _ _ _) (FramedFor.pure _)

/-! ### Names and tests -/

omit hclosed in
/-- A name ends in front of a token that closes a parenthesis. -/
theorem exists_splitSegments_closed (hclose : close.kind = .rParen) :
    ∀ ts : List Token, ∃ words left, ∀ rest,
      DottedName.splitSegments (ts ++ close :: rest) = (words, left ++ close :: rest)
  | [] => by
      refine ⟨[], [], fun rest => ?_⟩
      cases rest with
      | nil => rfl
      | cons word rest =>
          have hstop : ¬(close.kind = .dot ∧ word.kind.isWord = true) := by
            rw [hclose]
            exact fun h => absurd h.1 (by decide)
          exact if_neg hstop
  | [dot] => by
      refine ⟨[], [dot], fun rest => ?_⟩
      have hstop : ¬(dot.kind = .dot ∧ close.kind.isWord = true) := by
        rw [hclose]
        exact fun h => absurd h.2 (by decide)
      exact if_neg hstop
  | dot :: word :: ts => by
      by_cases hname : dot.kind = .dot ∧ word.kind.isWord = true
      · obtain ⟨words, left, hsplit⟩ := exists_splitSegments_closed hclose ts
        refine ⟨word :: words, left, fun rest => ?_⟩
        rw [List.cons_append, List.cons_append, DottedName.splitSegments, if_pos hname,
          hsplit rest]
      · refine ⟨[], dot :: word :: ts, fun rest => ?_⟩
        rw [List.cons_append, List.cons_append, DottedName.splitSegments, if_neg hname]

omit hclosed in
theorem run_dottedName (what : Expectation) (ctx : Context) (first : Token) (ts : List Token) :
    dottedName what ctx (first :: ts) =
      if first.kind.isWord then
        ⟨[], (DottedName.splitSegments ts).2, .ok ⟨first, (DottedName.splitSegments ts).1⟩⟩
      else ⟨[.error (.expected what first.describe) first], first :: ts, .error .failed⟩ := by
  unfold dottedName
  rw [run_peek_bind, List.headD_cons]
  cases hword : first.kind.isWord with
  | true => rfl
  | false => rfl

theorem FramedAt.dottedName (what : Expectation) :
    FramedAt e (dottedName what) (Reading.dottedName what) front where
  shrinks := (Step.Accountable.dottedName what).shrinks
  same n left _ h := by
    obtain ⟨hkind, ⟨rest, hmore⟩, ⟨rest', hmore'⟩⟩ := hclosed
    have hword : close.kind.isWord = false := by
      rw [hkind]
      rfl
    rw [hmore] at h ⊢
    rw [hmore']
    cases front with
    | nil =>
        rw [List.nil_append, Gives, run_dottedName, hword] at h
        obtain ⟨hresult, -⟩ := h
        cases hresult
    | cons first front =>
        obtain ⟨words, left', hsplit⟩ := exists_splitSegments_closed hkind front
        rw [List.cons_append, Gives, run_dottedName, hsplit rest] at h
        rw [List.cons_append, List.cons_append, run_dottedName, run_dottedName, hsplit rest,
          hsplit rest']
        split at h
        next hfirst =>
          obtain ⟨hname, hleft⟩ := h
          injection hname with hname
          rw [if_pos hfirst, if_pos hfirst, hname, List.append_cancel_right hleft]
        next =>
          obtain ⟨hresult, -⟩ := h
          cases hresult

omit hclosed in
theorem run_negation (ctx : Context) (ts : List Token) :
    negation ctx ts =
      if (ts.headD ctx.stop).kind = .not ∧ isNegation ts.tail then ⟨[], ts.tail, .ok true⟩
      else ⟨[], ts, .ok false⟩ := by
  unfold negation
  rw [run_remaining_bind, run_peek_bind]
  split
  next => rfl
  next => rfl

omit hclosed in
/-- What a `not` negates is seen in front of a token that closes a parenthesis. -/
theorem isNegation_closed (hclose : close.kind = .rParen) (ts rest rest' : List Token) :
    isNegation (ts ++ close :: rest) = isNegation (ts ++ close :: rest') := by
  have hword : close.kind.isWord = false := by
    rw [hclose]
    rfl
  have hcomparator : isComparatorWord close = false := by
    rw [isComparatorWord, hword]
    rfl
  cases ts with
  | nil =>
      rw [List.nil_append, List.nil_append, isNegation, isNegation, hcomparator, hword]
      rfl
  | cons t ts =>
      have hhead : (ts ++ close :: rest).head? = (ts ++ close :: rest').head? := by
        cases ts <;> rfl
      rw [List.cons_append, List.cons_append, isNegation, isNegation, hhead]

theorem FramedAt.negation : FramedAt e negation Reading.negation front where
  shrinks := Step.Accountable.negation.shrinks
  same negated left _ h := by
    obtain ⟨hkind, ⟨rest, hmore⟩, ⟨rest', hmore'⟩⟩ := hclosed
    rw [hmore] at h ⊢
    rw [hmore']
    rw [Gives, run_negation] at h
    rw [run_negation, run_negation]
    cases front with
    | nil =>
        have hnot (ctx : Context) (rest : List Token) :
            ¬((([] ++ close :: rest).headD ctx.stop).kind = .not ∧
              isNegation ([] ++ close :: rest).tail = true) := by
          rw [List.nil_append, List.headD_cons, hkind]
          exact fun h => absurd h.1 (by decide)
        rw [if_neg (hnot _ _)] at h
        rw [if_neg (hnot _ _), if_neg (hnot _ _)]
        obtain ⟨hresult, hleft⟩ := h
        injection hresult with hresult
        rw [hresult, List.append_cancel_right hleft]
    | cons t front =>
        have hnegation := isNegation_closed hkind front rest rest'
        rw [List.cons_append, List.headD_cons, List.tail_cons, hnegation] at h
        rw [List.cons_append, List.cons_append, List.headD_cons, List.headD_cons,
          List.tail_cons, List.tail_cons, hnegation]
        split at h
        next hnot =>
          obtain ⟨hresult, hleft⟩ := h
          injection hresult with hresult
          rw [if_pos hnot, if_pos hnot, hresult, List.append_cancel_right hleft]
        next hnot =>
          obtain ⟨hresult, hleft⟩ := h
          injection hresult with hresult
          rw [← List.cons_append] at hleft ⊢
          rw [if_neg hnot, if_neg hnot, hresult, List.append_cancel_right hleft]

theorem FramedAt.attributeTest (name : DottedName) (hbounds : e.Bounds front) :
    FramedAt e (attributeTest name) (Reading.attributeTest name) front := by
  apply FramedAt.peek_bind_closed hclosed
  intro t
  apply FramedFor.ite (FramedFor.pure _)
  apply FramedFor.bind FramedAt.comparator
  intro op front₁ hsuffix
  apply FramedFor.bind (FramedAt.value hclosed op (hbounds.of_suffix hsuffix))
  intro x front₂ _
  exact FramedFor.bind_pure _ (FramedAt.remark _ _ _)

theorem FramedAt.spanName : FramedAt e spanName Reading.spanName front := by
  apply FramedFor.bind (FramedAt.dottedName hclosed _)
  intro n front₁ _
  exact FramedFor.bind_pure _ (FramedAt.remark _ _ _)

end Closed

/-! ## Parentheses -/

theorem Endings.closedBy_behind (close : Token) (left : List Token)
    (hclose : close.kind = .rParen) : (e.behind close left hclose).ClosedBy close :=
  ⟨hclose, ⟨_, rfl⟩, ⟨_, rfl⟩⟩

/-- What is read in parentheses begins behind a token and ends in front of one. -/
theorem exists_parentheses {p : Step α} (hp : p.Shrinks) {a : α} {left : List Token}
    (h : Gives (Reading.expect .lParen .openParen >>= fun _ => p >>= fun a =>
        Reading.expect .rParen .closeParen >>= fun _ => Pure.pure a)
      e.ctx (front ++ e.more) a (left ++ e.more)) :
    ∃ t part close, front = t :: (part ++ close :: left) ∧ t.kind = .lParen ∧
      close.kind = .rParen ∧ Gives p e.ctx (part ++ close :: (left ++ e.more)) a
        (close :: (left ++ e.more)) := by
  simp only [gives_bind, gives_expect, gives_pure] at h
  obtain ⟨u, mid, ⟨hopen, rfl⟩, a', mid', ha, u', mid'', ⟨hclose, rfl⟩, rfl, hleft⟩ := h
  obtain ⟨close, rfl⟩ : ∃ close, mid' = close :: (left ++ e.more) := by
    cases mid' with
    | nil =>
        rw [List.headD_nil, e.stop] at hclose
        cases hclose
    | cons close mid' => exact ⟨close, by rw [hleft]; rfl⟩
  have hsuffix := hp _ _ _ _ ha
  cases front with
  | nil =>
      have hlength := hsuffix.length_le
      rw [List.nil_append, List.length_tail, List.length_cons, List.length_append] at hlength
      omega
  | cons t front₁ =>
      rw [List.cons_append, List.tail_cons] at ha hsuffix
      obtain ⟨part, rfl⟩ : ∃ part, part ++ close :: left = front₁ := by
        rw [← List.cons_append] at hsuffix
        exact suffix_of_append_suffix hsuffix
      rw [List.append_assoc, List.cons_append] at ha
      exact ⟨t, part, close, rfl, hopen, hclose, ha⟩

/-- What is read in parentheses does not depend on what stands behind them. -/
theorem FramedAt.parenthesized {p : Step α} (hp : p.Shrinks)
    (hclosed : ∀ close left hclose front₁, front₁.length < front.length →
      FramedAt (e.behind close left hclose) p p front₁) :
    FramedAt e
      (Reading.expect .lParen .openParen >>= fun _ => p >>= fun a =>
        Reading.expect .rParen .closeParen >>= fun _ => Pure.pure a)
      (Reading.expect .lParen .openParen >>= fun _ => p >>= fun a =>
        Reading.expect .rParen .closeParen >>= fun _ => Pure.pure a) front where
  shrinks := by
    have hclose (a : α) : (Reading.expect .rParen .closeParen >>= fun _ => Pure.pure a).Shrinks :=
      (Step.Accountable.bind_pure _ (.expect _ _)).shrinks
    exact (Step.Accountable.expect _ _).shrinks.bind fun _ => hp.bind hclose
  same a left _ h := by
    obtain ⟨t, part, close, rfl, hopen, hclose, ha⟩ := exists_parentheses hp h
    have hframed := hclosed close left hclose part (by
      rw [List.length_cons, List.length_append]
      omega)
    have hrun : p e.ctx' (part ++ close :: (left ++ e.more')) =
        ⟨(p e.ctx (part ++ close :: (left ++ e.more))).findings,
          close :: (left ++ e.more'), .ok a⟩ :=
      hframed.same a [] trivial ha
    have hmore (more : List Token) :
        (part ++ close :: left) ++ more = part ++ close :: (left ++ more) := by
      rw [List.append_assoc, List.cons_append]
    rw [List.cons_append, List.cons_append, run_bind_of_ok (run_expect _ _ _ hopen),
      run_bind_of_ok (run_expect _ _ _ hopen), hmore, hmore, run_bind_of_ok ha.run,
      run_bind_of_ok hrun, run_bind_of_ok (run_expect _ _ _ hclose),
      run_bind_of_ok (run_expect _ _ _ hclose)]
    rfl

theorem FramedAt.spanArgument : FramedAt e spanArgument Reading.spanArgument front := by
  apply FramedAt.parenthesized Step.Accountable.spanName.shrinks
  intro close left hclose front₁ _
  exact FramedAt.spanName (Endings.closedBy_behind close left hclose)

/-- Read what stands in the parentheses of a clause. -/
def clauseBody : Step Clause := do
  let negated ← negation
  let name ← dottedName .attributeName
  let test ← attributeTest name
  return ⟨name.text, test, negated⟩

theorem clause_eq :
    clause = Reading.expect .lParen .openParen >>= fun _ => clauseBody >>= fun c =>
      Reading.expect .rParen .closeParen >>= fun _ => Pure.pure c := by
  unfold clause clauseBody
  simp only [bind_assoc, pure_bind]

theorem Step.Accountable.clauseBody : clauseBody.Accountable := by
  apply bind negation
  intro negated
  apply bind (dottedName _)
  intro name
  exact bind_pure _ (attributeTest name)

theorem FramedAt.clause (hbounds : e.Bounds front) :
    FramedAt e clause Reading.clause front := by
  rw [clause_eq]
  apply FramedAt.parenthesized Step.Accountable.clauseBody.shrinks
  intro close left hclose front₁ hlength
  have hclosed := Endings.closedBy_behind (e := e) close left hclose
  apply FramedFor.bind (FramedAt.negation hclosed)
  intro negated front₂ hfront₂
  apply FramedFor.bind (FramedAt.dottedName hclosed _)
  intro name front₃ hfront₃
  have hlength₃ := (hfront₃.trans hfront₂).length_le.trans_lt hlength
  have hbounds₃ : (e.behind close left hclose).Bounds front₃ :=
    ⟨hlength₃.trans hbounds.1, hlength₃.trans hbounds.2⟩
  exact FramedFor.bind_pure _ (FramedAt.attributeTest hclosed name hbounds₃)

end TraceCheck.Reading
