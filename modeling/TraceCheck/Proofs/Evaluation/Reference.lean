import TraceCheck.Proofs.Evaluation.Places

/-!
# Evaluation with an index

Evaluation looks only at the spans that the index of a trace keeps under the
names in an expression.  `Expr.holds` and `Expr.evidence` say what an
expression means without any index.  The index of a trace holds under each
name exactly the spans of that name, in order and each one once; from this
invariant the two agree by induction on the expression.
-/

namespace TraceCheck

/-! ## The index of a trace -/

/-- The spans of a name with their places, read off the trace itself. -/
def Trace.spansNamed (t : Trace) (name : String) : List (Nat × Span) :=
  (t.spans.zipIdx.filter fun (s, _) => s.operationName == name).map
    fun (s, i) => (i, s)

theorem SpanIndex.named_add
    (index : SpanIndex) (s : Span) (i : Nat) (name : String) :
    (index.add s i).named name =
      if s.operationName == name then (i, s) :: index.named name
      else index.named name := by
  unfold SpanIndex.add SpanIndex.named
  rw [Std.HashMap.getD_insert]
  split
  next h => rw [eq_of_beq h]
  next => rfl

/-- The index holds under each name the spans of that name, in the order of
the trace. -/
theorem SpanIndex.named_ofTrace (t : Trace) (name : String) :
    (SpanIndex.ofTrace t).named name = t.spansNamed name := by
  unfold SpanIndex.ofTrace Trace.spansNamed
  induction t.spans.zipIdx with
  | nil => simp [SpanIndex.named]
  | cons x rest ih =>
      obtain ⟨s, i⟩ := x
      rw [List.foldr_cons, SpanIndex.named_add, ih, List.filter_cons]
      split <;> rfl

theorem Trace.spansNamed_places (t : Trace) (name : String) :
    (t.spansNamed name).map (·.1) =
      t.places fun s => s.operationName == name := by
  simp [Trace.spansNamed, Trace.places]

theorem Trace.spansNamed_length (t : Trace) (name : String) :
    (t.spansNamed name).length = t.countOf name := by
  rw [← List.length_map (·.1), Trace.spansNamed_places, Trace.length_places]
  rfl

theorem Trace.spansNamed_filter_places
    (t : Trace) (name : String) (p : Span → Bool) :
    ((t.spansNamed name).filter fun (_, s) => p s).map (·.1) =
      t.places fun s => s.operationName == name && p s := by
  simp only [Trace.spansNamed, Trace.places, List.filter_map, List.map_map,
    List.filter_filter, Function.comp_def, Bool.and_comm]

/-! ## Evidence -/

theorem Expr.evidence_eq_places (t : Trace) (e : Expr) :
    e.evidence t = t.places fun s => e.supportedBy t s :=
  rfl

theorem Expr.mem_evidence {t : Trace} {e : Expr} {i : Nat} :
    i ∈ e.evidence t ↔
      ∃ s, t.spans[i]? = some s ∧ e.supportedBy t s = true := by
  rw [Expr.evidence_eq_places, Trace.mem_places]

theorem Expr.evidence_ascending (t : Trace) (e : Expr) :
    (e.evidence t).Pairwise (· < ·) := by
  rw [Expr.evidence_eq_places]
  exact t.places_ascending _

/-- Only what holds has evidence. -/
theorem Expr.holds_of_supportedBy
    {t : Trace} {s : Span} (hs : s ∈ t.spans) (e : Expr)
    (h : e.supportedBy t s = true) :
    e.holds t = true := by
  cases e with
  | binary op l r =>
      simp only [Expr.supportedBy, Bool.and_eq_true] at h
      exact h.1
  | not e => simp [Expr.supportedBy] at h
  | has name clauses => exact List.any_eq_true.mpr ⟨s, hs, h⟩
  | count name op operand =>
      simp only [Expr.supportedBy, Bool.and_eq_true] at h
      exact h.1

theorem Expr.evidence_eq_nil_of_not_holds
    {t : Trace} {e : Expr} (h : e.holds t = false) :
    e.evidence t = [] := by
  rw [Expr.evidence_eq_places, Trace.places_eq_nil_iff]
  intro s hs
  by_contra hne
  have hsupp : e.supportedBy t s = true := by simpa using hne
  simp [Expr.holds_of_supportedBy hs e hsupp] at h

/-- The name of a span that is evidence occurs in the expression. -/
theorem Expr.name_mem_spanNames_of_supportedBy
    {t : Trace} {s : Span} (e : Expr)
    (h : e.supportedBy t s = true) :
    s.operationName ∈ e.spanNames := by
  induction e with
  | binary op l r ihl ihr =>
      simp only [Expr.supportedBy, Bool.and_eq_true, Bool.or_eq_true] at h
      rcases h.2 with ⟨-, hl⟩ | ⟨-, hr⟩
      · exact List.mem_append_left _ (ihl hl)
      · exact List.mem_append_right _ (ihr hr)
  | not e ih => simp [Expr.supportedBy] at h
  | has name clauses =>
      simp only [Expr.supportedBy, Span.satisfies, Bool.and_eq_true] at h
      simpa [Expr.spanNames] using h.1
  | count name op operand =>
      simp only [Expr.supportedBy, Bool.and_eq_true, Bool.or_eq_true] at h
      cases operand with
      | literal value => simpa [CountOperand.counts, Expr.spanNames] using h.2
      | count other => simpa [CountOperand.counts, Expr.spanNames] using h.2

/-! ## Evaluation agrees with the meaning -/

/-- Places that count only under a condition are the places of a condition on
spans. -/
theorem Trace.ite_places (t : Trace) (c : Bool) (p : Span → Bool) :
    (if c = true then t.places p else []) = t.places fun s => c && p s := by
  cases c with
  | false =>
      have hnil : (t.places fun s => false && p s) = [] :=
        Trace.places_eq_nil_iff.mpr fun _ _ => rfl
      rw [hnil]
      rfl
  | true => simp

theorem Evaluation.ofEvidence_places
    (holds : Bool) (t : Trace) (p : Span → Bool) :
    Evaluation.ofEvidence holds (t.places p) =
      ⟨holds, t.places fun s => holds && p s⟩ := by
  rw [Evaluation.ofEvidence, Trace.ite_places]

/-- Combining what two expressions mean gives what their combination means. -/
theorem Evaluation.combine_eq
    (op : LogicalOp) (l r : Expr) (t : Trace) :
    Evaluation.combine op ⟨l.holds t, l.evidence t⟩ ⟨r.holds t, r.evidence t⟩ =
      ⟨(Expr.binary op l r).holds t, (Expr.binary op l r).evidence t⟩ := by
  unfold Evaluation.combine Evaluation.contribution
  simp only [Expr.evidence_eq_places, Trace.ite_places, mergePlaces_places,
    Evaluation.ofEvidence_places]
  cases op <;> rfl

theorem Expr.isEmpty_evidence_has (t : Trace) (name : String) (clauses : List Clause) :
    ((Expr.has name clauses).evidence t).isEmpty = !(Expr.has name clauses).holds t := by
  cases hholds : (Expr.has name clauses).holds t with
  | false => simp [Expr.evidence_eq_nil_of_not_holds hholds]
  | true =>
      obtain ⟨s, hs, hsat⟩ := List.any_eq_true.mp hholds
      have hne : (Expr.has name clauses).evidence t ≠ [] := by
        intro hnil
        rw [Expr.evidence_eq_places, Trace.places_eq_nil_iff] at hnil
        exact Bool.false_ne_true ((hnil s hs).symm.trans hsat)
      simpa using hne

/-- Evaluation with the index of a trace yields the meaning of an expression
and its evidence. -/
theorem SpanIndex.evaluate_ofTrace (t : Trace) (e : Expr) :
    (SpanIndex.ofTrace t).evaluate e = ⟨e.holds t, e.evidence t⟩ := by
  induction e with
  | binary op l r ihl ihr =>
      rw [SpanIndex.evaluate, ihl, ihr, Evaluation.combine_eq]
  | not e ih =>
      have hnil : (Expr.not e).evidence t = [] :=
        Trace.places_eq_nil_iff.mpr fun _ _ => rfl
      rw [SpanIndex.evaluate, ih, hnil]
      rfl
  | has name clauses =>
      have hplaces :
          (((SpanIndex.ofTrace t).named name).filter
              fun (_, s) => clauses.all (·.holds s)).map (·.1) =
            (Expr.has name clauses).evidence t := by
        rw [SpanIndex.named_ofTrace]
        exact Trace.spansNamed_filter_places t name fun s =>
          clauses.all (·.holds s)
      have hempty :
          (((SpanIndex.ofTrace t).named name).filter
              fun (_, s) => clauses.all (·.holds s)).isEmpty =
            !(Expr.has name clauses).holds t := by
        rw [← List.isEmpty_map, hplaces]
        exact Expr.isEmpty_evidence_has t name clauses
      simp only [SpanIndex.evaluate, hplaces, hempty, Bool.not_not]
  | count name op operand =>
      cases operand with
      | literal value =>
          simp only [SpanIndex.evaluate, SpanIndex.named_ofTrace,
            Trace.spansNamed_length, Trace.spansNamed_places, List.map_nil]
          have hmerge :
              mergePlaces (t.places fun s => s.operationName == name) [] =
                t.places fun s =>
                  s.operationName == name ||
                    (CountOperand.literal value).counts s.operationName := by
            simp [CountOperand.counts]
          rw [hmerge, Evaluation.ofEvidence_places]
          rfl
      | count other =>
          simp only [SpanIndex.evaluate, SpanIndex.named_ofTrace,
            Trace.spansNamed_length, Trace.spansNamed_places]
          rw [mergePlaces_places, Evaluation.ofEvidence_places]
          rfl

/-- Evaluation refines the meaning of expressions.  It finds a violation
exactly when the expression holds, and the places it reports are, in strictly
ascending order, those of the spans that support the expression: none when
there is no violation, and only spans that the expression names. -/
theorem evaluate_refines_meaning (e : Expr) (t : Trace) :
    e.evaluate t = ⟨e.holds t, e.evidence t⟩ ∧
      (e.evaluate t).matched.Pairwise (· < ·) ∧
      (∀ i, i ∈ (e.evaluate t).matched ↔
        ∃ s, t.spans[i]? = some s ∧ e.supportedBy t s = true) ∧
      ((e.evaluate t).violated = false → (e.evaluate t).matched = []) ∧
      ∀ i ∈ (e.evaluate t).matched,
        ∃ h : i < t.spans.length, t.spans[i].operationName ∈ e.spanNames := by
  have heval : e.evaluate t = ⟨e.holds t, e.evidence t⟩ :=
    SpanIndex.evaluate_ofTrace t e
  rw [heval]
  refine ⟨rfl, Expr.evidence_ascending t e, fun i => Expr.mem_evidence,
    Expr.evidence_eq_nil_of_not_holds, ?_⟩
  intro i hi
  obtain ⟨s, hs, hsupp⟩ := Expr.mem_evidence.mp hi
  obtain ⟨hlt, rfl⟩ := List.getElem?_eq_some_iff.mp hs
  exact ⟨hlt, Expr.name_mem_spanNames_of_supportedBy e hsupp⟩

end TraceCheck
