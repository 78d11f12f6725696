import TraceCheck.Proofs.Evaluation.Reference

/-!
# Evidence is sufficient

The reported spans explain a violation: a trace that is cut down to them, and
to any others, still violates the rule.  A part that holds keeps holding
because its whole evidence is kept, so that counts do not change.  A part
under a negation has to keep failing on fewer spans; this is the case when it
only asks for the presence of spans, and it is why counts and further
negations are excluded there.
-/

namespace TraceCheck

/-! ## Parts of a trace -/

/-- The trace that keeps the spans at some places, in their order. -/
def Trace.restrict (t : Trace) (keep : Nat → Bool) : Trace :=
  { t with spans := (t.spans.zipIdx.filter fun (_, i) => keep i).map (·.1) }

theorem Trace.mem_restrict
    {t : Trace} {keep : Nat → Bool} {s : Span} :
    s ∈ (t.restrict keep).spans ↔
      ∃ i, t.spans[i]? = some s ∧ keep i = true := by
  simp only [Trace.restrict, List.mem_map, List.mem_filter]
  constructor
  · rintro ⟨⟨s, i⟩, ⟨hmem, hkeep⟩, rfl⟩
    exact ⟨i, List.mem_zipIdx_iff_getElem?.mp hmem, hkeep⟩
  · rintro ⟨i, hs, hkeep⟩
    exact ⟨(s, i), ⟨List.mem_zipIdx_iff_getElem?.mpr hs, hkeep⟩, rfl⟩

theorem Trace.mem_of_mem_restrict
    {t : Trace} {keep : Nat → Bool} {s : Span}
    (hs : s ∈ (t.restrict keep).spans) :
    s ∈ t.spans := by
  obtain ⟨i, hi, -⟩ := Trace.mem_restrict.mp hs
  exact List.mem_of_getElem? hi

/-- A count does not change when all spans of its name are kept. -/
theorem Trace.countOf_restrict
    {t : Trace} {keep : Nat → Bool} {name : String}
    (hkeep : ∀ i s, t.spans[i]? = some s →
      (s.operationName == name) = true → keep i = true) :
    (t.restrict keep).countOf name = t.countOf name := by
  have hfst :
      t.countOf name =
        t.spans.zipIdx.countP fun (s, _) => s.operationName == name := by
    have hmap := congrArg (List.countP fun s => s.operationName == name)
      (List.zipIdx_map_fst 0 t.spans)
    rw [List.countP_map] at hmap
    exact hmap.symm
  rw [hfst, Trace.countOf, Trace.restrict, List.countP_map, List.countP_filter]
  apply List.countP_congr
  rintro ⟨s, i⟩ hmem
  simp only [Function.comp_apply, Bool.and_eq_true]
  exact ⟨And.left, fun h =>
    ⟨h, hkeep i s (List.mem_zipIdx_iff_getElem?.mp hmem) h⟩⟩

/-! ## Rules that negate nothing but presence -/

/-- Whether an expression only asks for the presence of spans: it has neither
a negation nor a count. -/
def Expr.isPresence : Expr → Bool
  | binary _ l r => l.isPresence && r.isPresence
  | not _ => false
  | has .. => true
  | count .. => false

/-- Whether every negation in an expression is one of presence. -/
def Expr.negatesPresence : Expr → Bool
  | binary _ l r => l.negatesPresence && r.negatesPresence
  | not e => e.isPresence
  | has .. => true
  | count .. => true

/-- What is present in a part of a trace is present in the trace. -/
theorem Expr.holds_of_holds_restrict
    {t : Trace} {keep : Nat → Bool} {e : Expr}
    (hpres : e.isPresence = true) (h : e.holds (t.restrict keep) = true) :
    e.holds t = true := by
  induction e with
  | binary op l r ihl ihr =>
      simp only [Expr.isPresence, Bool.and_eq_true] at hpres
      cases op with
      | and =>
          simp only [Expr.holds, Bool.and_eq_true] at h ⊢
          exact ⟨ihl hpres.1 h.1, ihr hpres.2 h.2⟩
      | or =>
          simp only [Expr.holds, Bool.or_eq_true] at h ⊢
          exact h.imp (ihl hpres.1) (ihr hpres.2)
  | not e ih => simp [Expr.isPresence] at hpres
  | has name clauses =>
      obtain ⟨s, hs, hsat⟩ := List.any_eq_true.mp h
      exact List.any_eq_true.mpr ⟨s, Trace.mem_of_mem_restrict hs, hsat⟩
  | count name op operand => simp [Expr.isPresence] at hpres

/-- An expression that holds in a trace holds in every part of it that keeps
the evidence. -/
theorem Expr.holds_restrict
    {t : Trace} {keep : Nat → Bool} {e : Expr}
    (hneg : e.negatesPresence = true) (h : e.holds t = true)
    (hkeep : ∀ i s, t.spans[i]? = some s →
      e.supportedBy t s = true → keep i = true) :
    e.holds (t.restrict keep) = true := by
  induction e with
  | binary op l r ihl ihr =>
      simp only [Expr.negatesPresence, Bool.and_eq_true] at hneg
      -- a side that holds contributes its whole evidence
      have hleft : l.holds t = true → l.holds (t.restrict keep) = true := by
        intro hl
        refine ihl hneg.1 hl fun i s hs hsupp => hkeep i s hs ?_
        simp [Expr.supportedBy, h, hl, hsupp]
      have hright : r.holds t = true → r.holds (t.restrict keep) = true := by
        intro hr
        refine ihr hneg.2 hr fun i s hs hsupp => hkeep i s hs ?_
        simp [Expr.supportedBy, h, hr, hsupp]
      cases op with
      | and =>
          simp only [Expr.holds, Bool.and_eq_true] at h ⊢
          exact ⟨hleft h.1, hright h.2⟩
      | or =>
          simp only [Expr.holds, Bool.or_eq_true] at h ⊢
          exact h.imp hleft hright
  | not e ih =>
      simp only [Expr.holds, Bool.not_eq_true'] at h ⊢
      by_contra hne
      have hpart : e.holds (t.restrict keep) = true := by simpa using hne
      simp [Expr.holds_of_holds_restrict hneg hpart] at h
  | has name clauses =>
      obtain ⟨s, hs, hsat⟩ := List.any_eq_true.mp h
      obtain ⟨i, hi⟩ := List.mem_iff_getElem?.mp hs
      have hmem : s ∈ (t.restrict keep).spans :=
        Trace.mem_restrict.mpr ⟨i, hi, hkeep i s hi hsat⟩
      exact List.any_eq_true.mpr ⟨s, hmem, hsat⟩
  | count name op operand =>
      have hname : (t.restrict keep).countOf name = t.countOf name := by
        refine Trace.countOf_restrict fun i s hs hsn => hkeep i s hs ?_
        simp [Expr.supportedBy, h, hsn]
      cases operand with
      | literal value =>
          simpa [Expr.holds, CountOperand.valueIn, hname] using h
      | count other =>
          have hother : (t.restrict keep).countOf other = t.countOf other := by
            refine Trace.countOf_restrict fun i s hs hsn => hkeep i s hs ?_
            simp [Expr.supportedBy, h, CountOperand.counts, hsn]
          simpa [Expr.holds, CountOperand.valueIn, hname, hother] using h

/-- The reported spans are sufficient evidence.  If a trace violates a rule
whose negations are of presence only, then so does the trace that keeps the
reported spans and any others. -/
theorem violated_restrict_of_violated
    (e : Expr) (t : Trace) (keep : Nat → Bool)
    (hneg : e.negatesPresence = true)
    (hviolated : (e.evaluate t).violated = true)
    (hkeep : ∀ i ∈ (e.evaluate t).matched, keep i = true) :
    (e.evaluate (t.restrict keep)).violated = true := by
  unfold Expr.evaluate at hviolated hkeep ⊢
  rw [SpanIndex.evaluate_ofTrace] at hviolated hkeep ⊢
  refine Expr.holds_restrict hneg hviolated fun i s hs hsupp => hkeep i ?_
  exact Expr.mem_evidence.mpr ⟨s, hs, hsupp⟩

/-- Two queries around a request: without the request the rule is still
violated, by a count and by an absence. -/
theorem violated_restrict_queries :
    let e : Expr := .binary .and (.count "db.query" .gte (.literal 2))
      (.binary .or (.not (.has "cache.hit" [])) (.has "auth.login" []))
    let t : Trace := ⟨"t", [⟨"a", none, "db.query", none, [], .unset, 0, none⟩,
      ⟨"b", none, "http.get", none, [], .unset, 0, none⟩,
      ⟨"c", none, "db.query", none, [], .unset, 0, none⟩]⟩
    e.negatesPresence = true ∧ (e.evaluate t).violated = true ∧
      (e.evaluate t).matched = [0, 2] ∧
      (e.evaluate (t.restrict fun i => i != 1)).violated = true := by
  intro e t
  have heval : e.evaluate t = ⟨true, [0, 2]⟩ := by
    unfold Expr.evaluate
    rw [SpanIndex.evaluate_ofTrace]
    decide
  refine ⟨rfl, by rw [heval], by rw [heval], ?_⟩
  apply violated_restrict_of_violated e t (fun i => i != 1) rfl
  · rw [heval]
  · rw [heval]
    decide

end TraceCheck
