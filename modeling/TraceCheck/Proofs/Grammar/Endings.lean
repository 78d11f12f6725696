import TraceCheck.Proofs.Grammar.Recovery

/-!
# What stands behind an expression

A step of reading that has a result looks ahead, but what it sees behind the tokens that it
passes makes no difference, as long as that does not continue what was read: the step has the
same result, notes the same and leaves the same tokens when something else stands there.
-/

namespace TraceCheck.Reading

variable {α β : Type}

/-! ## Steps that go forward -/

/-- A step with a result leaves the last of its tokens. -/
def Step.Shrinks (p : Step α) : Prop :=
  ∀ ctx ts a rest, Gives p ctx ts a rest → rest <:+ ts

theorem Step.Accountable.shrinks {p : Step α} (h : p.Accountable) : p.Shrinks := by
  rintro ctx ts a rest ⟨-, rfl⟩
  obtain ⟨part, htokens, -⟩ := h ctx ts
  exact ⟨part, htokens⟩

theorem Step.Shrinks.bind {p : Step α} {f : α → Step β} (hp : p.Shrinks)
    (hf : ∀ a, (f a).Shrinks) : (p >>= f).Shrinks := by
  intro ctx ts b rest h
  obtain ⟨a, mid, ha, hb⟩ := gives_bind.mp h
  exact (hf a ctx mid b rest hb).trans (hp ctx ts a mid ha)

theorem Step.Shrinks.fail (e : ParseError) (place : Token) : (fail e place : Step α).Shrinks :=
  fun _ _ _ _ h => absurd h not_gives_fail

/-! ## Endings -/

/-- Two ways in which the tokens end behind those that a step passes.  The second way does
not continue a name, a check or a chain. -/
structure Endings where
  ctx : Context
  ctx' : Context
  more : List Token
  more' : List Token
  depth : ctx'.maxDepth = ctx.maxDepth
  stop : ctx.stop.kind = .eof
  ends : (more'.headD ctx'.stop).kind ≠ .dot ∧ operatorOf? (more'.headD ctx'.stop) = none

/-- The endings behind some more tokens, the first of which closes a parenthesis. -/
def Endings.behind (e : Endings) (close : Token) (left : List Token)
    (hclose : close.kind = .rParen) : Endings where
  ctx := e.ctx
  ctx' := e.ctx'
  more := close :: (left ++ e.more)
  more' := close :: (left ++ e.more')
  depth := e.depth
  stop := e.stop
  ends := by
    rw [List.headD_cons, operatorOf?, hclose]
    exact ⟨by decide, rfl⟩

/-- A step that has some good result and leaves the first ending has the same result and
notes the same in front of the second ending.  The steps may differ in their fuel. -/
structure FramedFor (good : α → Prop) (e : Endings) (p p' : Step α) (front : List Token) :
    Prop where
  shrinks : p.Shrinks
  same : ∀ a left, good a → Gives p e.ctx (front ++ e.more) a (left ++ e.more) →
    p' e.ctx' (front ++ e.more') =
      ⟨(p e.ctx (front ++ e.more)).findings, left ++ e.more', .ok a⟩

/-- A step that has any result and leaves the first ending does the same in front of the
second ending. -/
abbrev FramedAt (e : Endings) (p p' : Step α) (front : List Token) : Prop :=
  FramedFor (fun _ => True) e p p' front

variable {e : Endings} {front : List Token}

/-- The tokens are fewer than the bounds of all loops. -/
def Endings.Bounds (e : Endings) (front : List Token) : Prop :=
  front.length < e.ctx.size ∧ front.length < e.ctx'.size

theorem Endings.Bounds.of_suffix {front₁ : List Token} (h : e.Bounds front)
    (hsuffix : front₁ <:+ front) : e.Bounds front₁ :=
  ⟨hsuffix.length_le.trans_lt h.1, hsuffix.length_le.trans_lt h.2⟩

theorem suffix_of_append_suffix {left more : List Token} (h : left ++ more <:+ front ++ more) :
    left <:+ front := by
  obtain ⟨part, hpart⟩ := h
  rw [← List.append_assoc] at hpart
  exact ⟨part, List.append_cancel_right hpart⟩

namespace FramedFor

theorem pure {good : α → Prop} (a : α) :
    FramedFor good e (Pure.pure a : Step α) (Pure.pure a) front where
  shrinks := (Step.Accountable.pure a).shrinks
  same b left _ h := by
    obtain ⟨rfl, hleft⟩ := gives_pure.mp h
    rw [List.append_cancel_right hleft]
    rfl

theorem bind {good : β → Prop} {p p' : Step α} {f f' : α → Step β} (hp : FramedAt e p p' front)
    (hf : ∀ a front₁, front₁ <:+ front → FramedFor good e (f a) (f' a) front₁) :
    FramedFor good e (p >>= f) (p' >>= f') front where
  shrinks := hp.shrinks.bind fun a => (hf a front (List.suffix_refl _)).shrinks
  same b left hgood h := by
    obtain ⟨a, mid, ha, hb⟩ := gives_bind.mp h
    obtain ⟨part, rfl⟩ := (hf a front (List.suffix_refl _)).shrinks _ _ _ _ hb
    rw [← List.append_assoc] at ha hb
    have hsuffix := suffix_of_append_suffix (hp.shrinks _ _ _ _ ha)
    rw [run_bind_of_ok (hp.same a _ trivial ha), (hf a _ hsuffix).same b left hgood hb,
      run_bind_of_ok ha.run]

theorem bind_pure {p p' : Step α} (f : α → β) (hp : FramedAt e p p' front) :
    FramedAt e (p >>= fun a => Pure.pure (f a)) (p' >>= fun a => Pure.pure (f a)) front :=
  bind hp fun _ _ _ => pure _

theorem ite {good : α → Prop} {c : Prop} [Decidable c] {p p' q q' : Step α}
    (hp : FramedFor good e p p' front) (hq : FramedFor good e q q' front) :
    FramedFor good e (if c then p else q) (if c then p' else q') front := by
  split
  · exact hp
  · exact hq

theorem size_bind {good : β → Prop} {f f' : Nat → Step β} (hshrinks : ∀ n, (f n).Shrinks)
    (hf : FramedFor good e (f e.ctx.size) (f' e.ctx'.size) front) :
    FramedFor good e (size >>= f) (size >>= f') front where
  shrinks := Step.Accountable.size.shrinks.bind hshrinks
  same a left hgood h := by
    rw [gives_size_bind] at h
    rw [run_size_bind, run_size_bind, hf.same a left hgood h]

/-- A step looks at the next token.  When this is the first token of the ending, what
follows must not depend on it. -/
theorem peek_bind {good : β → Prop} {f f' : Token → Step β} (hshrinks : (peek >>= f).Shrinks)
    (hcons : ∀ t front₁, front = t :: front₁ → FramedFor good e (f t) (f' t) (t :: front₁))
    (hnil : front = [] → ∀ a left, good a →
      Gives (f (e.more.headD e.ctx.stop)) e.ctx e.more a (left ++ e.more) →
        f' (e.more'.headD e.ctx'.stop) e.ctx' e.more' =
          ⟨(f (e.more.headD e.ctx.stop) e.ctx e.more).findings, left ++ e.more', .ok a⟩) :
    FramedFor good e (peek >>= f) (peek >>= f') front where
  shrinks := hshrinks
  same a left hgood h := by
    rw [gives_peek_bind] at h
    rw [run_peek_bind, run_peek_bind]
    cases front with
    | nil =>
        rw [List.nil_append] at h ⊢
        rw [List.nil_append, hnil rfl a left hgood h]
    | cons t front₁ =>
        rw [List.cons_append, List.headD_cons] at h ⊢
        rw [List.cons_append, List.headD_cons]
        have hrun := (hcons t front₁ rfl).same a left hgood h
        rw [List.cons_append, List.cons_append] at hrun
        rw [hrun]

theorem pass_bind {good : β → Prop} {f f' : Unit → Step β} {t : Token}
    (hf : FramedFor good e (f ()) (f' ()) front) :
    FramedFor good e (pass >>= f) (pass >>= f') (t :: front) where
  shrinks := Step.Accountable.pass.shrinks.bind fun _ => hf.shrinks
  same a left hgood h := by
    rw [gives_pass_bind] at h
    rw [run_pass_bind, run_pass_bind]
    rw [List.cons_append, List.tail_cons] at h ⊢
    rw [List.cons_append, List.tail_cons, hf.same a left hgood h]

end FramedFor

namespace FramedAt

theorem fail (err : ParseError) (place place' : Token) :
    FramedAt e (fail err place : Step α) (Reading.fail err place') front where
  shrinks := .fail err place
  same _ _ _ h := absurd h not_gives_fail

theorem unexpected (what : Expectation) :
    FramedAt e (unexpected what : Step α) (Reading.unexpected what) front where
  shrinks := (Step.Accountable.unexpected what).shrinks
  same _ _ _ h := absurd h not_gives_unexpected

theorem remark (ls : List Lint) (first : Token) (length : Nat) :
    FramedAt e (remark ls first length) (Reading.remark ls first length) front where
  shrinks := (Step.Accountable.remark ls first length).shrinks
  same a left _ h := by
    have hleft : front ++ e.more = left ++ e.more := h.2
    rw [← List.append_cancel_right hleft]
    rfl

theorem enter (taken : Nat) : FramedAt e (enter taken) (Reading.enter taken) front where
  shrinks := (Step.Accountable.enter taken).shrinks
  same a left _ h := by
    obtain ⟨htaken, hleft⟩ := gives_enter.mp h
    rw [List.append_cancel_right hleft]
    have hrun : Reading.enter taken e.ctx (front ++ e.more) = ⟨[], front ++ e.more, .ok ()⟩ :=
      if_neg (Nat.not_le.mpr htaken)
    have hrun' : Reading.enter taken e.ctx' (front ++ e.more') =
        ⟨[], front ++ e.more', .ok ()⟩ := by
      refine if_neg (Nat.not_le.mpr ?_)
      rwa [e.depth]
    rw [hrun, hrun']

theorem pass {t : Token} : FramedAt e pass Reading.pass (t :: front) where
  shrinks := Step.Accountable.pass.shrinks
  same a left _ h := by
    have hleft : left ++ e.more = front ++ e.more := gives_pass.mp h
    rw [List.append_cancel_right hleft]
    rfl

/-- A step looks at the next token only to blame it. -/
theorem peek_bind_blame {f f' : Token → Step β}
    (hf : ∀ t t', FramedAt e (f t) (f' t') front) :
    FramedAt e (peek >>= f) (peek >>= f') front where
  shrinks := Step.Accountable.peek.shrinks.bind fun t => (hf t t).shrinks
  same a left _ h := by
    rw [gives_peek_bind] at h
    rw [run_peek_bind, run_peek_bind, (hf _ _).same a left trivial h]

end FramedAt

theorem not_append_suffix_tail {ts left : List Token} (hne : ts ≠ []) :
    ¬left ++ ts <:+ ts.tail := by
  intro h
  have hlength := h.length_le
  rw [List.length_append, List.length_tail] at hlength
  have hpos := List.length_pos_iff.mpr hne
  omega

/-- A step that passes the first token of the ending does not leave the ending. -/
theorem not_gives_pass_bind {ctx : Context} {ts left : List Token} {f : Unit → Step β} {b : β}
    (hf : (f ()).Shrinks) (hne : ts ≠ []) : ¬Gives (pass >>= f) ctx ts b (left ++ ts) := by
  intro h
  rw [gives_pass_bind] at h
  exact not_append_suffix_tail hne (hf _ _ _ _ h)

theorem Endings.more_ne_nil {kind : TokenKind} (hnext : (e.more.headD e.ctx.stop).kind = kind)
    (hkind : kind ≠ .eof) : e.more ≠ [] := by
  intro hnil
  rw [hnil] at hnext
  exact hkind (hnext.symm.trans e.stop)

theorem Endings.not_gives_pass_bind {kind : TokenKind} {f : Unit → Step β} {left : List Token}
    {b : β} (hnext : (e.more.headD e.ctx.stop).kind = kind) (hkind : kind ≠ .eof)
    (hf : (f ()).Shrinks) : ¬Gives (pass >>= f) e.ctx e.more b (left ++ e.more) :=
  Reading.not_gives_pass_bind hf (Endings.more_ne_nil hnext hkind)

theorem not_gives_expect {kind : TokenKind} {what : Expectation} {left : List Token} {u : Unit}
    (hkind : kind ≠ .eof) : ¬Gives (expect kind what) e.ctx e.more u (left ++ e.more) := by
  intro h
  obtain ⟨hnext, htail⟩ := gives_expect.mp h
  have hne := Endings.more_ne_nil hnext hkind
  have hsuffix : left ++ e.more <:+ e.more.tail := by rw [htail]
  exact not_append_suffix_tail hne hsuffix

theorem not_gives_expect_bind {kind : TokenKind} {what : Expectation} {f : Unit → Step β}
    {left : List Token} {b : β} (hkind : kind ≠ .eof) (hf : (f ()).Shrinks) :
    ¬Gives (expect kind what >>= f) e.ctx e.more b (left ++ e.more) := by
  intro h
  obtain ⟨u, mid, hexpect, hb⟩ := gives_bind.mp h
  obtain ⟨part, rfl⟩ := hf _ _ _ _ hb
  rw [← List.append_assoc] at hexpect
  exact not_gives_expect hkind hexpect

theorem FramedAt.expect {kind : TokenKind} (what : Expectation) (hkind : kind ≠ .eof) :
    FramedAt e (expect kind what) (Reading.expect kind what) front := by
  apply FramedFor.peek_bind (Step.Accountable.expect kind what).shrinks
  · intro t front₁ _
    exact FramedFor.ite FramedAt.pass (FramedAt.unexpected what)
  · rintro - a left - h
    have hnot : ¬Gives (Reading.expect kind what) e.ctx e.more a (left ++ e.more) :=
      not_gives_expect hkind
    exact absurd h hnot

theorem FramedAt.comparator : FramedAt e comparator Reading.comparator front := by
  apply FramedFor.peek_bind Step.Accountable.comparator.shrinks
  · intro t front₁ _
    cases hop : comparatorOf? t with
    | some op => exact FramedFor.pass_bind (FramedFor.pure op)
    | none => exact FramedAt.unexpected _
  · rintro - a left - h
    split at h
    next op hop =>
      have hkind : (e.more.headD e.ctx.stop).kind ≠ .eof := fun heof => by
        rw [comparatorOf?, heof] at hop
        cases hop
      exact absurd h (Endings.not_gives_pass_bind rfl hkind (Step.Accountable.pure op).shrinks)
    next => exact absurd h not_gives_unexpected

end TraceCheck.Reading
