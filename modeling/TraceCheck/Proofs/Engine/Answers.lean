import Mathlib.Data.String.Basic
import TraceCheck.Engine.Basic
import TraceCheck.Proofs.Evaluation.Reference

/-!
# Answers of an engine

An engine answers a trace with one violation for each of its rules that is enabled
and violated, in the order of their identifiers.  The answer is a function of the
rules by identifier: neither the edits that led to them nor the order in which they
are visited can be seen in it.
-/

namespace TraceCheck

/-! ## What an answer reports -/

/-- A trace is larger than the limits allow. -/
def Trace.Exceeds (t : Trace) (l : Limits) : Prop :=
  l.maxSpansPerTrace < t.spans.length ∨
    ∃ s ∈ t.spans, l.maxAttributesPerSpan < s.attributes.length

/-- The identifiers of the spans at some places, in the order of the trace. -/
def Trace.spanIdsAt (t : Trace) (places : List Nat) : List String :=
  (t.spans.zipIdx.filter fun (_, i) => places.contains i).map (·.1.spanId)

/-- A violation is the report of a rule on a trace. -/
structure Violation.Reports (v : Violation) (r : Rule) (t : Trace) : Prop where
  ruleId : v.ruleId = r.id
  ruleName : v.ruleName = r.name
  severity : v.severity = r.severity
  description : v.description = r.description
  traceId : v.traceId = t.traceId
  spanIds : v.spanIds = t.spanIdsAt (r.ast.evaluate t).matched

/-- A stored rule is enabled, and a trace violates it. -/
structure Engine.Finds (e : Engine) (t : Trace) (r : Rule) : Prop where
  stored : e.store.get? r.id = some r
  enabled : r.enabled = true
  violated : (r.ast.evaluate t).violated = true

/-- Violations answer a trace: they ascend by the identifiers of their rules, each
rule that is found has one report among them, and there are no others. -/
structure Engine.Answers (e : Engine) (t : Trace) (vs : List Violation) : Prop where
  ascending : vs.Pairwise (·.ruleId < ·.ruleId)
  once : ∀ r, e.Finds t r → ∃ v, v.Reports r t ∧ vs.filter (·.ruleId == r.id) = [v]
  only : ∀ v ∈ vs, ∃ r, e.Finds t r ∧ v.Reports r t

/-- The violation of a rule by a trace, if there is one. -/
def Rule.violation? (r : Rule) (t : Trace) : Option Violation :=
  if (r.ast.evaluate t).violated then some (.ofEvaluation r t (r.ast.evaluate t)) else none

/-- The violations of the enabled ones of some rules, visited in the given order and
sorted by identifier afterwards. -/
def collectViolations (t : Trace) (rs : List Rule) : List Violation :=
  ((rs.filter (·.enabled)).filterMap (·.violation? t)).mergeSort fun v w =>
    decide (v.ruleId ≤ w.ruleId)

/-! ## Traces that are too large -/

theorem Limits.excess?_eq_none_iff {l : Limits} {t : Trace} :
    l.excess? t = none ↔ ¬ t.Exceeds l := by
  unfold Limits.excess? Trace.Exceeds
  by_cases hspans : l.maxSpansPerTrace < t.spans.length
  · simp [hspans]
  · simp [hspans, List.find?_eq_none]

/-! ## Reports -/

/-- The spans at places that ascend are taken in the order of the trace. -/
theorem Evaluation.spanIds_eq
    {e : Evaluation} {t : Trace} (hascending : e.matched.Pairwise (· < ·))
    (hbound : ∀ i ∈ e.matched, i < t.spans.length) :
    e.spanIds t = t.spanIdsAt e.matched := by
  let visited := t.spans.zipIdx.filter fun (_, i) => e.matched.contains i
  have hplaces : visited.map (·.2) = e.matched := by
    have hall : (t.spans.zipIdx.map (·.2)).Pairwise (· < ·) := by
      rw [List.zipIdx_map_snd]
      exact List.pairwise_lt_range'
    refine (hall.sublist (List.filter_sublist.map _)).eq_of_mem_iff hascending fun i => ?_
    simp only [List.mem_map, List.mem_filter, List.contains_iff_mem]
    constructor
    · rintro ⟨⟨s, j⟩, ⟨-, hj⟩, rfl⟩
      exact hj
    · intro hi
      obtain ⟨s, hs⟩ : ∃ s, t.spans[i]? = some s :=
        ⟨_, List.getElem?_eq_getElem (hbound i hi)⟩
      exact ⟨(s, i), ⟨List.mem_zipIdx_iff_getElem?.mpr hs, hi⟩, rfl⟩
  have hspan : ∀ p ∈ visited, t.spans.toArray[p.2]?.map (·.spanId) = some p.1.spanId := by
    intro p hp
    have hget := List.mem_zipIdx_iff_getElem?.mp (List.mem_filter.mp hp).1
    rw [List.getElem?_toArray, hget]
    rfl
  calc
    e.spanIds t = (visited.map (·.2)).filterMap fun i => t.spans.toArray[i]?.map (·.spanId) := by
      rw [hplaces]
      rfl
    _ = visited.filterMap fun p => some p.1.spanId := by
      rw [List.filterMap_map]
      exact List.filterMap_congr hspan
    _ = t.spanIdsAt e.matched := by
      rw [List.filterMap_eq_map']
      rfl

theorem Expr.spanIds_evaluate (a : Expr) (t : Trace) :
    (a.evaluate t).spanIds t = t.spanIdsAt (a.evaluate t).matched := by
  have heval : a.evaluate t = ⟨a.holds t, a.evidence t⟩ := SpanIndex.evaluate_ofTrace t a
  rw [heval]
  refine Evaluation.spanIds_eq (Expr.evidence_ascending t a) fun i hi => ?_
  obtain ⟨s, hs, -⟩ := Expr.mem_evidence.mp hi
  exact (List.getElem?_eq_some_iff.mp hs).1

/-- A rule on a trace has no two reports. -/
theorem Violation.Reports.unique
    {v w : Violation} {r : Rule} {t : Trace} (hv : v.Reports r t) (hw : w.Reports r t) :
    v = w := by
  obtain ⟨hid, hname, hseverity, hdescription, htrace, hspans⟩ := hw
  obtain ⟨_, _, _, _, _, _⟩ := w
  obtain ⟨_, _, _, _, _, _⟩ := v
  obtain ⟨rfl, rfl, rfl, rfl, rfl, rfl⟩ := hv
  subst_vars
  rfl

theorem Rule.violation?_eq_some_iff {r : Rule} {t : Trace} {v : Violation} :
    r.violation? t = some v ↔ (r.ast.evaluate t).violated = true ∧ v.Reports r t := by
  have hreports : (Violation.ofEvaluation r t (r.ast.evaluate t)).Reports r t :=
    ⟨rfl, rfl, rfl, rfl, rfl, Expr.spanIds_evaluate r.ast t⟩
  unfold Rule.violation?
  rw [Option.ite_none_right_eq_some]
  refine and_congr_right fun _ => ⟨?_, ?_⟩
  · intro h
    rwa [← Option.some.inj h]
  · intro hv
    rw [hreports.unique hv]

/-! ## Violations in order -/

section Ascending

variable {α : Type} {key : α → String} {xs : List α} {x : α}

/-- In a list that ascends by a key each entry is the only one with its key. -/
theorem filter_key_eq_singleton
    (h : xs.Pairwise (key · < key ·)) (hx : x ∈ xs) :
    xs.filter (key · == key x) = [x] := by
  induction xs with
  | nil => cases hx
  | cons y xs ih =>
      obtain ⟨hy, hall⟩ := List.pairwise_cons.mp h
      rcases List.mem_cons.mp hx with rfl | hx
      · have hnone : xs.filter (key · == key x) = [] := by
          refine List.filter_eq_nil_iff.mpr fun z hz => ?_
          simpa using (hy z hz).ne'
        rw [List.filter_cons, if_pos (beq_self_eq_true _), hnone]
      · have hne : ¬ (key y == key x) = true := by
          simpa using (hy x hx).ne
        rw [List.filter_cons, if_neg hne, ih hall hx]

theorem eq_of_key_eq
    (h : xs.Pairwise (key · < key ·)) (hx : x ∈ xs) {y : α} (hy : y ∈ xs)
    (heq : key y = key x) : y = x := by
  have hmem : y ∈ xs.filter (key · == key x) :=
    List.mem_filter.mpr ⟨hy, beq_iff_eq.mpr heq⟩
  rw [filter_key_eq_singleton h hx] at hmem
  exact List.mem_singleton.mp hmem

/-- Sorting the entries of a list that ascends by a key gives the list back. -/
theorem mergeSort_eq_of_perm
    (h : xs.Pairwise (key · < key ·)) {ys : List α} (hperm : ys.Perm xs) :
    (ys.mergeSort fun a b => decide (key a ≤ key b)) = xs := by
  let before : α → α → Bool := fun a b => decide (key a ≤ key b)
  have htrans (a b c : α) (hab : before a b = true) (hbc : before b c = true) :
      before a c = true :=
    decide_eq_true ((of_decide_eq_true hab).trans (of_decide_eq_true hbc))
  have htotal (a b : α) : (before a b || before b a) = true := by
    simpa [before] using le_total (key a) (key b)
  have hsorted : (ys.mergeSort before).Pairwise (key · ≤ key ·) :=
    (List.pairwise_mergeSort htrans htotal ys).imp of_decide_eq_true
  have hascending : xs.Pairwise (key · ≤ key ·) := h.imp le_of_lt
  have hsame : (ys.mergeSort before).Perm xs := (List.mergeSort_perm ys before).trans hperm
  refine hsame.eq_of_pairwise (fun a b ha hb hab hba => ?_) hsorted hascending
  exact eq_of_key_eq h hb (hsame.mem_iff.mp ha) (le_antisymm hab hba)

end Ascending

namespace Engine

variable (e : Engine) (t : Trace)

theorem violations_ascending : (e.violations t).Pairwise (·.ruleId < ·.ruleId) := by
  refine List.Pairwise.filterMap (·.violation? t) ?_ e.store.enabled_ascending
  intro r s hrs v hv w hw
  have hid := (Rule.violation?_eq_some_iff.mp hv).2.ruleId
  have hid' := (Rule.violation?_eq_some_iff.mp hw).2.ruleId
  rwa [hid, hid']

theorem mem_violations {v : Violation} :
    v ∈ e.violations t ↔ ∃ r, e.Finds t r ∧ v.Reports r t := by
  have hmem : v ∈ e.violations t ↔ ∃ r ∈ e.store.enabled, r.violation? t = some v :=
    List.mem_filterMap
  rw [hmem]
  constructor
  · rintro ⟨r, hr, hv⟩
    obtain ⟨hstored, henabled⟩ := RuleStore.mem_enabled.mp hr
    obtain ⟨hviolated, hreports⟩ := Rule.violation?_eq_some_iff.mp hv
    exact ⟨r, ⟨hstored, henabled, hviolated⟩, hreports⟩
  · rintro ⟨r, hr, hreports⟩
    exact ⟨r, RuleStore.mem_enabled.mpr ⟨hr.stored, hr.enabled⟩,
      Rule.violation?_eq_some_iff.mpr ⟨hr.violated, hreports⟩⟩

theorem answers_violations : e.Answers t (e.violations t) where
  ascending := e.violations_ascending t
  once r hr := by
    have hreports := Rule.violation?_eq_some_iff.mp (if_pos hr.violated)
    have hv := (e.mem_violations t).mpr ⟨r, hr, hreports.2⟩
    exact ⟨_, hreports.2, filter_key_eq_singleton (e.violations_ascending t) hv⟩
  only v hv := (e.mem_violations t).mp hv

/-- The order in which the rules of a store are visited does not matter. -/
theorem collectViolations_eq
    {rs : List Rule} (hnodup : rs.Nodup) (hrs : ∀ r, r ∈ rs ↔ e.store.get? r.id = some r) :
    collectViolations t rs = e.violations t := by
  have hperm : rs.Perm e.store.toList :=
    (List.perm_ext_iff_of_nodup hnodup e.store.toList_nodup).mpr fun r =>
      (hrs r).trans RuleStore.mem_toList.symm
  exact mergeSort_eq_of_perm (e.violations_ascending t) ((hperm.filter _).filterMap _)

/-- A trace that exceeds the limits is refused, and every other one is answered.  The
answer can be found by visiting the rules in any order, and engines that hold the
same rules under the same identifiers give the same one. -/
theorem evaluate_answers (e : Engine) (t : Trace) :
    (t.Exceeds e.limits → ∃ x, e.evaluate t = .error (.resourceLimit x)) ∧
      (¬ t.Exceeds e.limits →
        ∃ vs, e.evaluate t = .ok vs ∧ e.Answers t vs ∧
          ∀ rs : List Rule, rs.Nodup → (∀ r, r ∈ rs ↔ e.store.get? r.id = some r) →
            collectViolations t rs = vs) ∧
      ∀ e' : Engine, e'.limits = e.limits →
        (∀ id, e'.store.get? id = e.store.get? id) → e'.evaluate t = e.evaluate t := by
  refine ⟨?_, ?_, ?_⟩
  · intro hlarge
    cases hexcess : e.limits.excess? t with
    | none => exact absurd hlarge (Limits.excess?_eq_none_iff.mp hexcess)
    | some x =>
        refine ⟨x, ?_⟩
        rw [evaluate, hexcess]
  · intro hsmall
    refine ⟨e.violations t, ?_, e.answers_violations t, fun rs => e.collectViolations_eq t⟩
    rw [evaluate, Limits.excess?_eq_none_iff.mpr hsmall]
  · intro e' hlimits hstore
    have hsame : e'.store = e.store := RuleStore.ext hstore
    rw [evaluate, evaluate, violations, violations, hlimits, hsame]

end Engine

end TraceCheck
