import Mathlib.Data.List.Sort
import TraceCheck.Evaluation.Indexed

/-!
# Places of spans

The evidence for an expression is a list of places in a trace.  This module
describes such lists by membership: `Trace.places` lists the places of the
spans with a property, and `mergePlaces` is the union of two lists that
ascend.  A list that ascends is determined by its members, so equality of
evidence reduces to a question about single spans.
-/

namespace TraceCheck

/-! ## The places of the spans with a property -/

/-- The places of the spans with a property, in the order of the trace. -/
def Trace.places (t : Trace) (p : Span → Bool) : List Nat :=
  (t.spans.zipIdx.filter fun (s, _) => p s).map (·.2)

theorem Trace.mem_places
    {t : Trace} {p : Span → Bool} {i : Nat} :
    i ∈ t.places p ↔ ∃ s, t.spans[i]? = some s ∧ p s = true := by
  simp only [Trace.places, List.mem_map, List.mem_filter]
  constructor
  · rintro ⟨⟨s, j⟩, ⟨hmem, hp⟩, rfl⟩
    exact ⟨s, List.mem_zipIdx_iff_getElem?.mp hmem, hp⟩
  · rintro ⟨s, hs, hp⟩
    exact ⟨(s, i), ⟨List.mem_zipIdx_iff_getElem?.mpr hs, hp⟩, rfl⟩

theorem Trace.places_ascending (t : Trace) (p : Span → Bool) :
    (t.places p).Pairwise (· < ·) := by
  have hall : (t.spans.zipIdx.map (·.2)).Pairwise (· < ·) := by
    rw [List.zipIdx_map_snd]
    exact List.pairwise_lt_range'
  exact hall.sublist (List.filter_sublist.map _)

theorem Trace.places_eq_nil_iff
    {t : Trace} {p : Span → Bool} :
    t.places p = [] ↔ ∀ s ∈ t.spans, p s = false := by
  rw [List.eq_nil_iff_forall_not_mem]
  constructor
  · intro h s hs
    obtain ⟨i, hi⟩ := List.mem_iff_getElem?.mp hs
    by_contra hp
    exact h i (Trace.mem_places.mpr ⟨s, hi, by simpa using hp⟩)
  · intro h i hi
    obtain ⟨s, hs, hp⟩ := Trace.mem_places.mp hi
    have hfalse := h s (List.mem_of_getElem? hs)
    simp [hfalse] at hp

theorem Trace.length_places (t : Trace) (p : Span → Bool) :
    (t.places p).length = t.spans.countP p := by
  have hfst : (t.spans.zipIdx.map (·.1)).countP p = t.spans.countP p := by
    rw [List.zipIdx_map_fst]
  rw [Trace.places, List.length_map, ← hfst, List.countP_map,
    List.countP_eq_length_filter]
  rfl

/-! ## Merging lists that ascend -/

@[simp] theorem mergePlaces_nil (xs : List Nat) : mergePlaces xs [] = xs := by
  cases xs <;> simp [mergePlaces]

theorem mem_mergePlaces
    {xs ys : List Nat} {i : Nat} :
    i ∈ mergePlaces xs ys ↔ i ∈ xs ∨ i ∈ ys := by
  fun_induction mergePlaces xs ys with
  | case1 ys => simp
  | case2 xs h => simp
  | case3 x xs y ys hlt ih => simp [ih, or_assoc]
  | case4 x xs y ys hlt hgt ih =>
      simp only [List.mem_cons, ih]
      tauto
  | case5 x xs y ys hlt hgt ih =>
      have hxy : x = y := Nat.le_antisymm (not_lt.mp hgt) (not_lt.mp hlt)
      subst hxy
      simp only [List.mem_cons, ih]
      tauto

theorem mergePlaces_ascending
    {xs ys : List Nat}
    (hxs : xs.Pairwise (· < ·)) (hys : ys.Pairwise (· < ·)) :
    (mergePlaces xs ys).Pairwise (· < ·) := by
  fun_induction mergePlaces xs ys with
  | case1 ys => exact hys
  | case2 xs h => exact hxs
  | case3 x xs y ys hlt ih =>
      rw [List.pairwise_cons] at hxs
      refine List.pairwise_cons.mpr ⟨?_, ih hxs.2 hys⟩
      intro i hi
      rcases mem_mergePlaces.mp hi with hi | hi
      · exact hxs.1 i hi
      · rcases List.mem_cons.mp hi with rfl | hi
        · exact hlt
        · exact hlt.trans ((List.pairwise_cons.mp hys).1 i hi)
  | case4 x xs y ys hlt hgt ih =>
      rw [List.pairwise_cons] at hys
      refine List.pairwise_cons.mpr ⟨?_, ih hxs hys.2⟩
      intro i hi
      rcases mem_mergePlaces.mp hi with hi | hi
      · rcases List.mem_cons.mp hi with rfl | hi
        · exact hgt
        · exact hgt.trans ((List.pairwise_cons.mp hxs).1 i hi)
      · exact hys.1 i hi
  | case5 x xs y ys hlt hgt ih =>
      have hxy : x = y := Nat.le_antisymm (not_lt.mp hgt) (not_lt.mp hlt)
      subst hxy
      rw [List.pairwise_cons] at hxs hys
      refine List.pairwise_cons.mpr ⟨?_, ih hxs.2 hys.2⟩
      intro i hi
      rcases mem_mergePlaces.mp hi with hi | hi
      · exact hxs.1 i hi
      · exact hys.1 i hi

/-- Merging the places of two properties gives the places of their union. -/
theorem mergePlaces_places (t : Trace) (p q : Span → Bool) :
    mergePlaces (t.places p) (t.places q) =
      t.places fun s => p s || q s := by
  have hmerged : (mergePlaces (t.places p) (t.places q)).Pairwise (· < ·) :=
    mergePlaces_ascending (t.places_ascending p) (t.places_ascending q)
  refine hmerged.eq_of_mem_iff (t.places_ascending _) ?_
  intro i
  simp only [mem_mergePlaces, Trace.mem_places, Bool.or_eq_true]
  constructor
  · rintro (⟨s, hs, hp⟩ | ⟨s, hs, hq⟩)
    · exact ⟨s, hs, Or.inl hp⟩
    · exact ⟨s, hs, Or.inr hq⟩
  · rintro ⟨s, hs, hp | hq⟩
    · exact Or.inl ⟨s, hs, hp⟩
    · exact Or.inr ⟨s, hs, hq⟩

end TraceCheck
