import TraceCheck.Proofs.Grammar.Enclosed

/-!
# Reading in front of an ending

Checks, terms and chains that have a result look at the first token of what stands behind
them, and at no other.  It makes no difference to them as long as it does not begin another
clause or another term.
-/

namespace TraceCheck.Reading

variable {α β : Type} {e : Endings} {front : List Token}

/-! ## Checks -/

theorem FramedAt.clauses {n n' : Nat} (hn : front.length < n) (hn' : front.length < n')
    (hbounds : e.Bounds front) : FramedAt e (clauses n) (Reading.clauses n') front := by
  induction n generalizing n' front with
  | zero => exact absurd hn (Nat.not_lt_zero _)
  | succ n ih =>
      obtain ⟨n', rfl⟩ := Nat.exists_eq_succ_of_ne_zero (Nat.ne_zero_of_lt hn')
      have hshrinks : (do
          Reading.expect .where .where
          let c ← Reading.clause
          return c :: (← Reading.clauses n)).Shrinks := by
        refine (Step.Accountable.expect _ _).shrinks.bind fun _ => ?_
        refine Step.Accountable.clause.shrinks.bind fun c => ?_
        exact (Step.Accountable.bind_pure _ (.clauses n)).shrinks
      apply FramedFor.peek_bind (Step.Accountable.clauses (n + 1)).shrinks
      · rintro t front₁ rfl
        rw [List.length_cons] at hn hn'
        apply FramedFor.ite _ (FramedFor.pure _)
        apply FramedFor.pass_bind
        apply FramedFor.bind (FramedAt.expect .where (show TokenKind.where ≠ .eof by decide))
        intro _ front₂ hfront₂
        have hbounds₂ := hbounds.of_suffix (hfront₂.trans (List.suffix_cons t front₁))
        apply FramedFor.bind (FramedAt.clause hbounds₂)
        intro c front₃ hfront₃
        have hlength := (hfront₃.trans hfront₂).length_le
        exact FramedFor.bind_pure _ (ih (by omega) (by omega) (hbounds₂.of_suffix hfront₃))
      · rintro - a left - h
        rw [if_neg e.ends.1]
        split at h
        next hdot => exact absurd h (Endings.not_gives_pass_bind hdot (by decide) hshrinks)
        next hdot =>
          obtain ⟨rfl, hleft⟩ := gives_pure.mp h
          rw [if_neg hdot, List.append_left_eq_self.mp hleft]
          rfl

theorem FramedAt.countOperand (op : Comparator) :
    FramedAt e (countOperand op) (Reading.countOperand op) front := by
  have hcount : (do
      Reading.expect .dot .dot
      Reading.expect .count .count
      return CountOperand.count (← Reading.spanArgument)).Shrinks := by
    refine (Step.Accountable.expect _ _).shrinks.bind fun _ => ?_
    refine (Step.Accountable.expect _ _).shrinks.bind fun _ => ?_
    exact (Step.Accountable.bind_pure _ .spanArgument).shrinks
  apply FramedFor.peek_bind (Step.Accountable.countOperand op).shrinks
  · rintro t front₁ rfl
    cases hkind : t.kind with
    | number =>
        apply FramedFor.pass_bind
        cases hn : Decimal.readNat? countBound t.text with
        | some n => exact FramedFor.bind_pure _ (FramedAt.remark _ _ _)
        | none => exact FramedAt.fail _ _ _
    | trace =>
        apply FramedFor.pass_bind
        apply FramedFor.bind (FramedAt.expect .dot (show TokenKind.dot ≠ .eof by decide))
        intro _ front₂ _
        apply FramedFor.bind (FramedAt.expect .count (show TokenKind.count ≠ .eof by decide))
        intro _ front₃ _
        exact FramedFor.bind_pure _ FramedAt.spanArgument
    | _ => exact FramedAt.fail _ _ _
  · rintro - a left - h
    split at h
    next hkind =>
      refine absurd h (Endings.not_gives_pass_bind hkind (by decide) ?_)
      split
      · exact (Step.Accountable.bind_pure _ (.remark _ _ _)).shrinks
      · exact .fail _ _
    next hkind => exact absurd h (Endings.not_gives_pass_bind hkind (by decide) hcount)
    next => exact absurd h not_gives_fail

theorem FramedAt.spanTest (hbounds : e.Bounds front) :
    FramedAt e spanTest Reading.spanTest front := by
  have hhas : (do
      let name ← Reading.spanArgument
      return Expr.has name (← Reading.clauses (← size))).Shrinks := by
    refine Step.Accountable.spanArgument.shrinks.bind fun name => ?_
    refine Step.Accountable.size.shrinks.bind fun n => ?_
    exact (Step.Accountable.bind_pure _ (.clauses n)).shrinks
  have hcount : (do
      let name ← Reading.spanArgument
      let t ← peek
      let op ← Reading.comparator
      if op.isRelational then return Expr.count name op (← Reading.countOperand op)
      else Reading.fail (.countOperator op) t).Shrinks :=
    Step.Accountable.spanArgument.shrinks.bind fun name =>
      (Step.Accountable.countTest name).shrinks
  apply FramedFor.peek_bind Step.Accountable.spanTest.shrinks
  · rintro t front₁ rfl
    cases hkind : t.kind with
    | has =>
        apply FramedFor.pass_bind
        apply FramedFor.bind FramedAt.spanArgument
        intro name front₂ hfront₂
        have hbounds₂ := hbounds.of_suffix (hfront₂.trans (List.suffix_cons t front₁))
        apply FramedFor.size_bind fun n => (Step.Accountable.bind_pure _ (.clauses n)).shrinks
        exact FramedFor.bind_pure _ (FramedAt.clauses hbounds₂.1 hbounds₂.2 hbounds₂)
    | count =>
        apply FramedFor.pass_bind
        apply FramedFor.bind FramedAt.spanArgument
        intro name front₂ _
        apply FramedAt.peek_bind_blame
        intro t t'
        apply FramedFor.bind FramedAt.comparator
        intro op front₃ _
        exact FramedFor.ite (FramedFor.bind_pure _ (FramedAt.countOperand op)) (FramedAt.fail _ _ _)
    | _ => exact FramedAt.unexpected _
  · rintro - a left - h
    split at h
    next hkind => exact absurd h (Endings.not_gives_pass_bind hkind (by decide) hhas)
    next hkind => exact absurd h (Endings.not_gives_pass_bind hkind (by decide) hcount)
    next => exact absurd h not_gives_unexpected

theorem FramedAt.spanCheck (hbounds : e.Bounds front) :
    FramedAt e spanCheck Reading.spanCheck front := by
  rw [spanCheck_eq]
  apply FramedFor.bind (FramedAt.expect .trace (show TokenKind.trace ≠ .eof by decide))
  intro _ front₁ hfront₁
  apply FramedFor.bind (FramedAt.expect .dot (show TokenKind.dot ≠ .eof by decide))
  intro _ front₂ hfront₂
  exact FramedAt.spanTest (hbounds.of_suffix (hfront₂.trans hfront₁))

/-! ## Terms -/

/-- A term takes a token at least. -/
theorem not_gives_term {fuel taken : Nat} {x : Expr} {left : List Token} :
    ¬Gives (term fuel taken) e.ctx e.more x (left ++ e.more) := by
  cases fuel with
  | zero => exact not_gives_unexpected
  | succ fuel =>
      have hterm : (do
          Reading.enter taken
          return Expr.not (← term fuel (taken + 1))).Shrinks := by
        refine (Step.Accountable.enter taken).shrinks.bind fun _ => ?_
        exact (Step.Accountable.bind_pure _ (.term fuel (taken + 1))).shrinks
      have hcheck : (expect .dot .dot >>= fun _ => spanTest).Shrinks :=
        (Step.Accountable.expect _ _).shrinks.bind fun _ => Step.Accountable.spanTest.shrinks
      intro h
      rw [term_succ, gives_peek_bind] at h
      split at h
      next hnot => exact Endings.not_gives_pass_bind hnot (by decide) hterm h
      next =>
        rw [spanCheck_eq] at h
        exact not_gives_expect_bind (show TokenKind.trace ≠ .eof by decide) hcheck h

theorem FramedAt.term {n n' : Nat} (taken : Nat) (hn : front.length < n) (hn' : front.length < n')
    (hbounds : e.Bounds front) : FramedAt e (term n taken) (Reading.term n' taken) front := by
  induction n generalizing n' taken front with
  | zero => exact absurd hn (Nat.not_lt_zero _)
  | succ n ih =>
      obtain ⟨n', rfl⟩ := Nat.exists_eq_succ_of_ne_zero (Nat.ne_zero_of_lt hn')
      have hshrinks := (Step.Accountable.term (n + 1) taken).shrinks
      rw [term_succ] at hshrinks ⊢
      rw [term_succ]
      apply FramedFor.peek_bind hshrinks
      · rintro t front₁ rfl
        rw [List.length_cons] at hn hn'
        apply FramedFor.ite _ (FramedAt.spanCheck hbounds)
        apply FramedFor.pass_bind
        apply FramedFor.bind (FramedAt.enter taken)
        intro _ front₂ hfront₂
        have hlength := hfront₂.length_le
        have hbounds₂ := hbounds.of_suffix (hfront₂.trans (List.suffix_cons t front₁))
        exact FramedFor.bind_pure _ (ih (taken + 1) (by omega) (by omega) hbounds₂)
      · rintro - a left - h
        have hnot : ¬Gives (Reading.term (n + 1) taken) e.ctx e.more a (left ++ e.more) :=
          not_gives_term
        exact absurd h hnot

/-! ## Chains -/

theorem Step.Shrinks.attempt {p : Step α} (hp : p.Accountable) : (attempt p).Shrinks := by
  rintro ctx ts a rest ⟨-, rfl⟩
  obtain ⟨part, fault?, htokens, -⟩ := exists_attempted hp ctx ts
  exact ⟨part, htokens⟩

theorem Step.Shrinks.chainLink {fuel taken : Nat} {left : Option Expr} {op : LogicalOp} {t : Token}
    (hchain : ∀ left, (chain fuel (taken + 1) left).Shrinks) :
    (chainLink fuel taken left op t).Shrinks := by
  refine (Step.Accountable.remark _ _ _).shrinks.bind fun _ => ?_
  refine (Step.Accountable.enter taken).shrinks.bind fun _ => ?_
  refine Step.Accountable.size.shrinks.bind fun n => ?_
  exact (Step.Shrinks.attempt (.term n (taken + 1))).bind fun right => hchain _

theorem Step.Shrinks.chain (fuel taken : Nat) (left : Option Expr) :
    (chain fuel taken left).Shrinks := by
  induction fuel generalizing taken left with
  | zero => exact (Step.Accountable.pure left).shrinks
  | succ fuel ih =>
      refine Step.Accountable.peek.shrinks.bind fun t => ?_
      split
      · exact (Step.Accountable.pure left).shrinks
      · exact Step.Accountable.pass.shrinks.bind fun _ => .chainLink (ih (taken + 1))

/-- A step that yields something and leaves the first ending does the same in front of the
second ending. -/
abbrev FramedSome (e : Endings) (p p' : Step (Option α)) (front : List Token) : Prop :=
  FramedFor (fun a => a.isSome = true) e p p' front

theorem run_attempt_of_ok {p : Step α} {ctx : Context} {ts rest : List Token}
    {found : List Finding} {a : α} (hp : p ctx ts = ⟨found, rest, .ok a⟩) :
    attempt p ctx ts = ⟨found, rest, .ok (some a)⟩ := by
  rw [attempt, hp]

theorem FramedSome.attempt_bind {p p' : Step α} {k k' : Option α → Step (Option β)}
    (haccount : p.Accountable) (hshrinks : ∀ a, (k a).Shrinks) (hnone : (k none).Barren)
    (hp : FramedAt e p p' front)
    (hk : ∀ a front₁, front₁ <:+ front → FramedSome e (k (some a)) (k' (some a)) front₁) :
    FramedSome e (attempt p >>= k) (attempt p' >>= k') front where
  shrinks := (Step.Shrinks.attempt haccount).bind hshrinks
  same b left hgood h := by
    obtain ⟨b, rfl⟩ := Option.isSome_iff_exists.mp hgood
    obtain ⟨a, mid, ha, hb⟩ := gives_bind.mp h
    cases a with
    | none => exact absurd hb.1 (hnone _ _ _)
    | some a =>
        have ha := gives_attempt_some.mp ha
        obtain ⟨part, rfl⟩ := hshrinks (some a) _ _ _ _ hb
        rw [← List.append_assoc] at ha hb
        have hsuffix := suffix_of_append_suffix (hp.shrinks _ _ _ _ ha)
        rw [run_bind_of_ok (run_attempt_of_ok (hp.same a _ trivial ha)),
          (hk a _ hsuffix).same _ left hgood hb, run_bind_of_ok (run_attempt_of_ok ha.run)]

theorem FramedSome.chainLink {n n' taken : Nat} {x : Expr} {op : LogicalOp} {t : Token}
    (hbounds : e.Bounds front)
    (hchain : ∀ x front₁, front₁ <:+ front →
      FramedSome e (chain n (taken + 1) (some x)) (chain n' (taken + 1) (some x)) front₁) :
    FramedSome e (chainLink n taken (some x) op t) (Reading.chainLink n' taken (some x) op t)
      front := by
  apply FramedFor.bind (FramedAt.remark _ _ _)
  intro _ front₁ hfront₁
  apply FramedFor.bind (FramedAt.enter taken)
  intro _ front₂ hfront₂
  have hsuffix := hfront₂.trans hfront₁
  have hbounds₂ := hbounds.of_suffix hsuffix
  apply FramedFor.size_bind
  · intro m
    exact (Step.Shrinks.attempt (.term m (taken + 1))).bind fun _ => .chain n _ _
  refine FramedSome.attempt_bind (.term _ _) ?_ ?_
    (FramedAt.term (taken + 1) hbounds₂.1 hbounds₂.2 hbounds₂) ?_
  · exact fun _ => .chain n _ _
  · exact Barren.chain n (taken + 1)
  · intro right front₃ hfront₃
    exact hchain _ front₃ (hfront₃.trans hsuffix)

/-- A chain that ends where the first ending begins ends where the second one begins. -/
theorem FramedSome.chain {n n' : Nat} (taken : Nat) (x : Expr) (hn : front.length < n)
    (hn' : front.length < n') (hbounds : e.Bounds front) :
    FramedSome e (chain n taken (some x)) (Reading.chain n' taken (some x)) front := by
  induction n generalizing n' taken x front with
  | zero => exact absurd hn (Nat.not_lt_zero _)
  | succ n ih =>
      obtain ⟨n', rfl⟩ := Nat.exists_eq_succ_of_ne_zero (Nat.ne_zero_of_lt hn')
      have hlink (op : LogicalOp) (t : Token) : (Reading.chainLink n taken (some x) op t).Shrinks :=
        Step.Shrinks.chainLink (Step.Shrinks.chain n (taken + 1))
      apply FramedFor.peek_bind (Step.Shrinks.chain (n + 1) taken (some x))
      · rintro t front₁ rfl
        rw [List.length_cons] at hn hn'
        cases hop : operatorOf? t with
        | none => exact FramedFor.pure (some x)
        | some op =>
            have hbounds₁ := hbounds.of_suffix (List.suffix_cons t front₁)
            refine FramedFor.pass_bind (FramedSome.chainLink hbounds₁ fun x front₂ hfront₂ => ?_)
            have hlength := hfront₂.length_le
            exact ih (taken + 1) x (by omega) (by omega) (hbounds₁.of_suffix hfront₂)
      · rintro - a left - h
        rw [e.ends.2]
        split at h
        next hop =>
          obtain ⟨rfl, hleft⟩ := gives_pure.mp h
          rw [hop, List.append_left_eq_self.mp hleft]
          rfl
        next op hop =>
          have hkind : (e.more.headD e.ctx.stop).kind ≠ .eof := fun heof => by
            rw [operatorOf?_eq_none_of_eof heof] at hop
            cases hop
          exact absurd h (Endings.not_gives_pass_bind rfl hkind (hlink op _))

/-- An expression that ends where the first ending begins ends where the second one
begins. -/
theorem FramedSome.expression (hbounds : e.Bounds front) :
    FramedSome e expression Reading.expression front := by
  rw [expression_eq]
  apply FramedFor.size_bind
  · intro n
    refine (Step.Shrinks.attempt (.term n 0)).bind fun _ => ?_
    exact Step.Accountable.size.shrinks.bind fun m => .chain m 0 _
  refine FramedSome.attempt_bind (.term _ 0) ?_ ?_
    (FramedAt.term 0 hbounds.1 hbounds.2 hbounds) ?_
  · exact fun _ => Step.Accountable.size.shrinks.bind fun m => .chain m 0 _
  · exact Barren.bind fun m => Barren.chain m 0
  · intro first front₁ hfront₁
    have hbounds₁ := hbounds.of_suffix hfront₁
    apply FramedFor.size_bind (fun m => .chain m 0 _)
    exact FramedSome.chain 0 first hbounds₁.1 hbounds₁.2 hbounds₁

/-- An expression takes a token at least. -/
theorem not_gives_expression {x : Expr} {left : List Token} :
    ¬Gives expression e.ctx e.more (some x) (left ++ e.more) := by
  intro h
  rw [expression_eq, gives_size_bind, gives_bind] at h
  obtain ⟨first, mid, hfirst, h⟩ := h
  rw [gives_size_bind] at h
  cases first with
  | none => exact Barren.chain e.ctx.size 0 _ _ _ h.1
  | some first =>
      obtain ⟨part, rfl⟩ := Step.Shrinks.chain _ _ _ _ _ _ _ h
      rw [← List.append_assoc] at hfirst
      exact not_gives_term (gives_attempt_some.mp hfirst)

end TraceCheck.Reading
