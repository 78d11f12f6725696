import Mathlib.Data.List.Perm.Subperm
import Mathlib.Data.Set.Function
import TraceCheck.Proofs.Evaluation.Reference

/-!
# Relevant spans

Evaluation depends only on the spans that an expression names, and not on their order.
Two traces that have the same such spans agree on their counts and on which of them
occur, and these are all that the meaning of an expression asks for.  A renaming of
places that keeps the spans therefore carries the evidence in one trace to the evidence
in the other.
-/

namespace TraceCheck

/-! ## Traces with the same named spans -/

/-- Two traces have the same spans of some names, in whatever order and among whatever
others. -/
structure Trace.Alike (names : List String) (t u : Trace) : Prop where
  mem_iff : ∀ s, s.operationName ∈ names → (s ∈ t.spans ↔ s ∈ u.spans)
  countOf_eq : ∀ name ∈ names, t.countOf name = u.countOf name

theorem Trace.Alike.mono
    {names fewer : List String} {t u : Trace}
    (h : Trace.Alike names t u) (hfewer : fewer ⊆ names) :
    Trace.Alike fewer t u where
  mem_iff s hs := h.mem_iff s (hfewer hs)
  countOf_eq name hname := h.countOf_eq name (hfewer hname)

/-- An expression means the same in traces that have the same spans of its names. -/
theorem Expr.holds_of_alike
    {t u : Trace} {e : Expr} (h : Trace.Alike e.spanNames t u) :
    e.holds t = e.holds u := by
  induction e with
  | binary op l r ihl ihr =>
      have hl := ihl (h.mono (List.subset_append_left _ _))
      have hr := ihr (h.mono (List.subset_append_right _ _))
      cases op with
      | and => rw [Expr.holds, Expr.holds, hl, hr]
      | or => rw [Expr.holds, Expr.holds, hl, hr]
  | not e ih => rw [Expr.holds, Expr.holds, ih h]
  | has name clauses =>
      rw [Bool.eq_iff_iff, Expr.holds, Expr.holds, List.any_eq_true, List.any_eq_true]
      refine exists_congr fun s => and_congr_left fun hsat => h.mem_iff s ?_
      have hname : s.operationName = name := by
        rw [Span.satisfies, Bool.and_eq_true] at hsat
        exact eq_of_beq hsat.1
      rw [hname]
      exact List.mem_singleton_self name
  | count name op operand =>
      cases operand with
      | literal value =>
          have hcount := h.countOf_eq name (List.mem_singleton_self name)
          rw [Expr.holds, Expr.holds, hcount]
          rfl
      | count other =>
          have hcount := h.countOf_eq name List.mem_cons_self
          have hother := h.countOf_eq other (List.mem_cons_of_mem name List.mem_cons_self)
          rw [Expr.holds, Expr.holds, CountOperand.valueIn, CountOperand.valueIn, hcount, hother]

/-- A span is evidence alike in traces that have the same spans of the names. -/
theorem Expr.supportedBy_of_alike
    {t u : Trace} {e : Expr} (h : Trace.Alike e.spanNames t u) (s : Span) :
    e.supportedBy t s = e.supportedBy u s := by
  induction e with
  | binary op l r ihl ihr =>
      have hleft := h.mono (List.subset_append_left _ _)
      have hright := h.mono (List.subset_append_right _ _)
      rw [Expr.supportedBy, Expr.supportedBy, Expr.holds_of_alike h, Expr.holds_of_alike hleft,
        Expr.holds_of_alike hright, ihl hleft, ihr hright]
  | not e _ => rfl
  | has name clauses => rfl
  | count name op operand =>
      rw [Expr.supportedBy, Expr.supportedBy, Expr.holds_of_alike h]

/-! ## Renaming places -/

/-- The places of the spans that an expression names. -/
def Trace.namedPlaces (t : Trace) (e : Expr) : List Nat :=
  t.places fun s => e.spanNames.contains s.operationName

/-- A renaming of the places of the spans that an expression names, under which each
place keeps its span. -/
structure Trace.Renames (e : Expr) (t u : Trace) (f : Nat → Nat) : Prop where
  bijOn : Set.BijOn f {i | i ∈ t.namedPlaces e} {j | j ∈ u.namedPlaces e}
  span_eq : ∀ i ∈ t.namedPlaces e, u.spans[f i]? = t.spans[i]?

section Renaming

variable {e : Expr} {t u : Trace} {f : Nat → Nat}

theorem Trace.mem_namedPlaces {i : Nat} :
    i ∈ t.namedPlaces e ↔ ∃ s, t.spans[i]? = some s ∧ s.operationName ∈ e.spanNames := by
  rw [Trace.namedPlaces, Trace.mem_places]
  simp only [List.contains_iff_mem]

/-- Places of spans that are named are places of a property that only they have. -/
theorem Trace.mem_places_of_renames
    (h : Trace.Renames e t u f) {p : Span → Bool} {i : Nat} (hi : i ∈ t.namedPlaces e) :
    f i ∈ u.places p ↔ i ∈ t.places p := by
  rw [Trace.mem_places, Trace.mem_places, h.span_eq i hi]

/-- A property of named spans is carried from the places in one trace to those in the
other. -/
theorem Trace.Renames.bijOn_places
    (h : Trace.Renames e t u f) {p : Span → Bool}
    (hp : ∀ s, p s = true → s.operationName ∈ e.spanNames) :
    Set.BijOn f {i | i ∈ t.places p} {j | j ∈ u.places p} := by
  have hnamed {v : Trace} {i : Nat} (hi : i ∈ v.places p) : i ∈ v.namedPlaces e := by
    obtain ⟨s, hs, hps⟩ := Trace.mem_places.mp hi
    exact Trace.mem_namedPlaces.mpr ⟨s, hs, hp s hps⟩
  refine ⟨fun i hi => ?_, fun i hi j hj => ?_, fun j hj => ?_⟩
  · exact (Trace.mem_places_of_renames h (hnamed hi)).mpr hi
  · exact h.bijOn.injOn (hnamed hi) (hnamed hj)
  · obtain ⟨i, hi, rfl⟩ := h.bijOn.surjOn (hnamed hj)
    exact ⟨i, (Trace.mem_places_of_renames h hi).mp hj, rfl⟩

/-- Lists that ascend are equally long when one is carried to the other. -/
theorem length_eq_of_bijOn
    {xs ys : List Nat} (hxs : xs.Pairwise (· < ·)) (hys : ys.Pairwise (· < ·))
    (h : Set.BijOn f {i | i ∈ xs} {j | j ∈ ys}) :
    xs.length = ys.length := by
  have hnodup : (xs.map f).Nodup :=
    (List.nodup_map_iff_inj_on (hxs.imp Nat.ne_of_lt)).mpr fun i hi j hj heq =>
      h.injOn hi hj heq
  have hperm : (xs.map f).Perm ys := by
    refine (List.perm_ext_iff_of_nodup hnodup (hys.imp Nat.ne_of_lt)).mpr fun j => ?_
    rw [List.mem_map]
    exact ⟨fun ⟨i, hi, hij⟩ => hij ▸ h.mapsTo hi, fun hj => h.surjOn hj⟩
  rw [← hperm.length_eq, List.length_map]

/-- Traces whose named spans are renamed have the same named spans. -/
theorem Trace.Renames.alike (h : Trace.Renames e t u f) : Trace.Alike e.spanNames t u where
  mem_iff s hs := by
    constructor
    · intro hmem
      obtain ⟨i, hi⟩ := List.mem_iff_getElem?.mp hmem
      have hplace : i ∈ t.namedPlaces e := Trace.mem_namedPlaces.mpr ⟨s, hi, hs⟩
      exact List.mem_of_getElem? ((h.span_eq i hplace).trans hi)
    · intro hmem
      obtain ⟨j, hj⟩ := List.mem_iff_getElem?.mp hmem
      have hplace : j ∈ u.namedPlaces e := Trace.mem_namedPlaces.mpr ⟨s, hj, hs⟩
      obtain ⟨i, hi, rfl⟩ := h.bijOn.surjOn hplace
      exact List.mem_of_getElem? ((h.span_eq i hi).symm.trans hj)
  countOf_eq name hname := by
    have hcarried : Set.BijOn f
        {i | i ∈ t.places fun s => s.operationName == name}
        {j | j ∈ u.places fun s => s.operationName == name} := by
      refine h.bijOn_places fun s hs => ?_
      rwa [eq_of_beq hs]
    have hlength := length_eq_of_bijOn (t.places_ascending _) (u.places_ascending _) hcarried
    rwa [Trace.length_places, Trace.length_places] at hlength

end Renaming

/-- Evaluation depends only on the spans that an expression names and not on their order:
if a renaming of places carries those of one trace to those of another one, each to an
equal span, then both traces violate the expression or neither does, and the renaming
carries the matched places of the one, all of which are among these, exactly to those of
the other. -/
theorem evaluate_of_renames
    (e : Expr) (t u : Trace) (f : Nat → Nat) (h : Trace.Renames e t u f) :
    (e.evaluate u).violated = (e.evaluate t).violated ∧
      (∀ i ∈ (e.evaluate t).matched, i ∈ t.namedPlaces e) ∧
      Set.BijOn f {i | i ∈ (e.evaluate t).matched} {j | j ∈ (e.evaluate u).matched} := by
  have halike := h.alike
  unfold Expr.evaluate
  rw [SpanIndex.evaluate_ofTrace, SpanIndex.evaluate_ofTrace]
  refine ⟨(Expr.holds_of_alike halike).symm, fun i hi => ?_, ?_⟩
  · obtain ⟨s, hs, hsupp⟩ := Expr.mem_evidence.mp hi
    exact Trace.mem_namedPlaces.mpr ⟨s, hs, Expr.name_mem_spanNames_of_supportedBy e hsupp⟩
  · have hevidence : e.evidence u = u.places fun s => e.supportedBy t s := by
      rw [Expr.evidence_eq_places]
      exact congrArg u.places (funext fun s => (Expr.supportedBy_of_alike halike s).symm)
    dsimp only
    rw [hevidence, Expr.evidence_eq_places]
    exact h.bijOn_places fun s => Expr.name_mem_spanNames_of_supportedBy e

/-- A query more than there are requests: the spans come in another order and between
other ones, and the same spans are reported. -/
theorem evaluate_of_renames_queries :
    let e : Expr := .binary .or (.count "db.query" .gt (.count "http.get"))
      (.not (.has "auth.login" []))
    let span (id name : String) : Span := ⟨id, none, name, none, [], .unset, 0, none⟩
    let t : Trace := ⟨"t", [span "a" "db.query", span "b" "http.get", span "c" "db.query",
      span "d" "cache.hit", span "e" "auth.login"]⟩
    let u : Trace := ⟨"u", [span "e" "auth.login", span "c" "db.query", span "x" "cache.miss",
      span "a" "db.query", span "b" "http.get"]⟩
    let f (i : Nat) : Nat := [3, 4, 1, 5, 0].getD i i
    Trace.Renames e t u f ∧ (e.evaluate t).violated = true ∧ (e.evaluate u).violated = true ∧
      (e.evaluate t).matched = [0, 1, 2] ∧
      Set.BijOn f {i | i ∈ (e.evaluate t).matched} {j | j ∈ (e.evaluate u).matched} := by
  intro e span t u f
  have heval : e.evaluate t = ⟨true, [0, 1, 2]⟩ := by
    unfold Expr.evaluate
    rw [SpanIndex.evaluate_ofTrace]
    decide
  have hplaces : t.namedPlaces e = [0, 1, 2, 4] ∧ u.namedPlaces e = [0, 1, 3, 4] := by decide
  have hrenames : Trace.Renames e t u f := by
    refine ⟨?_, ?_⟩
    · rw [hplaces.1, hplaces.2]
      refine ⟨?_, ?_, ?_⟩
      · exact (by decide : ∀ i ∈ [0, 1, 2, 4], f i ∈ [0, 1, 3, 4])
      · exact (by decide : ∀ i ∈ [0, 1, 2, 4], ∀ j ∈ [0, 1, 2, 4], f i = f j → i = j)
      · exact (by decide : ∀ j ∈ [0, 1, 3, 4], ∃ i ∈ [0, 1, 2, 4], f i = j)
    · rw [hplaces.1]
      simp [t, u, f, span]
  obtain ⟨hviolated, -, hmatched⟩ := evaluate_of_renames e t u f hrenames
  refine ⟨hrenames, by rw [heval], ?_, by rw [heval], hmatched⟩
  rw [hviolated, heval]

end TraceCheck
