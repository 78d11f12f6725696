import Mathlib.Data.String.Basic
import Mathlib.Order.Basic
import TraceCheck.Json.Decoder
import TraceCheck.Proofs.Decimal.Integers

/-!
# Reading records from structured values

What a record is when its fields are read one after the other: a property that
every field keeps holds of the record, and members that hold each field once are
read into it.
-/

namespace TraceCheck.Json

/-! ## Members in key order -/

section Members

variable {α : Type} {ms : List (String × α)}

theorem lastOfEachKey_sublist (ms : List (String × α)) : (lastOfEachKey ms).Sublist ms := by
  fun_induction lastOfEachKey ms with
  | case1 a b rest hkey ih => exact ih.cons a
  | case2 a b rest hkey ih => exact ih.cons_cons a
  | case3 ms h => exact List.Sublist.refl ms

theorem mem_of_mem_sortMembers {m : String × α} (h : m ∈ sortMembers ms) : m ∈ ms :=
  List.mem_mergeSort.mp ((lastOfEachKey_sublist _).mem h)

theorem pairwise_lastOfEachKey (h : ms.Pairwise (·.1 ≤ ·.1)) :
    (lastOfEachKey ms).Pairwise (·.1 < ·.1) := by
  fun_induction lastOfEachKey ms with
  | case1 a b rest hkey ih => exact ih h.of_cons
  | case2 a b rest hkey ih =>
      have hle : a.1 ≤ b.1 := List.rel_of_pairwise_cons h List.mem_cons_self
      have hlt : a.1 < b.1 := lt_of_le_of_ne hle hkey
      refine List.pairwise_cons.mpr ⟨fun m hm => ?_, ih h.of_cons⟩
      have hmem := (lastOfEachKey_sublist _).mem hm
      rcases List.mem_cons.mp hmem with rfl | hrest
      · exact hlt
      · exact lt_of_lt_of_le hlt (List.rel_of_pairwise_cons h.of_cons hrest)
  | case3 ms hshort =>
      match ms with
      | [] => exact List.Pairwise.nil
      | [a] => exact List.pairwise_singleton _ a
      | a :: b :: rest => exact (hshort a b rest rfl).elim

theorem pairwise_sortMembers (ms : List (String × α)) :
    (sortMembers ms).Pairwise (·.1 < ·.1) := by
  let before (a b : String × α) : Bool := decide (a.1 ≤ b.1)
  have htrans (a b c : String × α) (hab : before a b = true) (hbc : before b c = true) :
      before a c = true :=
    decide_eq_true (le_trans (of_decide_eq_true hab) (of_decide_eq_true hbc))
  have htotal (a b : String × α) : (before a b || before b a) = true := by
    simpa [before] using le_total a.1 b.1
  exact pairwise_lastOfEachKey
    ((List.pairwise_mergeSort htrans htotal ms).imp of_decide_eq_true)

theorem lastOfEachKey_of_pairwise (h : ms.Pairwise (·.1 < ·.1)) : lastOfEachKey ms = ms := by
  fun_induction lastOfEachKey ms with
  | case1 a b rest hkey ih =>
      have hlt := List.rel_of_pairwise_cons h List.mem_cons_self
      exact absurd hkey (ne_of_lt hlt)
  | case2 a b rest hkey ih => rw [ih h.of_cons]
  | case3 ms hshort => rfl

/-- Members in key order, one a key, stay as they are. -/
theorem sortMembers_of_pairwise (h : ms.Pairwise (·.1 < ·.1)) : sortMembers ms = ms := by
  have hsorted : ms.Pairwise fun a b => decide (a.1 ≤ b.1) = true :=
    h.imp fun hlt => decide_eq_true hlt.le
  rw [sortMembers, List.mergeSort_of_pairwise hsorted, lastOfEachKey_of_pairwise h]

end Members

/-! ## Values -/

/-- The structured values that there are: whole numbers of 64 bits, with a sign or without,
and doubles that are finite. -/
inductive IsRepresentable : Json → Prop
  | null : IsRepresentable .null
  | bool (b : Bool) : IsRepresentable (.bool b)
  | whole (i : Int) (hlow : -0x8000000000000000 ≤ i) (hhigh : i < 0x10000000000000000) :
      IsRepresentable (.number (.whole i))
  | double (x : Float) (hx : x.isFinite = true) : IsRepresentable (.number (.double x))
  | string (s : String) : IsRepresentable (.string s)
  | array (items : List Json) (hitems : ∀ j ∈ items, IsRepresentable j) :
      IsRepresentable (.array items)
  | object (members : List (String × Json)) (hmembers : ∀ m ∈ members, IsRepresentable m.2) :
      IsRepresentable (.object members)

namespace Decoder

variable {σ α β : Type} {fields : List (Field σ)}

theorem isFinite_of_double {j : Json} (hj : j.IsRepresentable) {x : Float}
    (h : double.fromValue j = .ok x) : x.isFinite = true := by
  cases hj with
  | whole i hlow hhigh =>
      cases h
      exact Decimal.isFinite_ofInt (by omega)
  | double y hy =>
      cases h
      exact hy
  | _ => cases h

theorem bind_eq_ok {r : Except Fault α} {f : α → Except Fault β} {b : β} :
    (r >>= f) = .ok b ↔ ∃ a, r = .ok a ∧ f a = .ok b := by
  cases r with
  | error e =>
      constructor
      · intro h
        cases h
      · rintro ⟨a, h, -⟩
        cases h
  | ok a =>
      constructor
      · intro h
        exact ⟨a, rfl, h⟩
      · rintro ⟨a', ha, h⟩
        cases ha
        exact h

theorem of_optional {d : Decoder α} {j : Json} {a : α}
    (h : (optional d).fromValue j = .ok (some a)) : d.fromValue j = .ok a := by
  cases j with
  | null => cases h
  | _ =>
      obtain ⟨b, hread, hsome⟩ := bind_eq_ok.mp h
      cases hsome
      exact hread

theorem optional_of_ok {d : Decoder α} {j : Json} {a : α} (hj : j ≠ .null)
    (h : d.fromValue j = .ok a) : (optional d).fromValue j = .ok (some a) := by
  cases j with
  | null => contradiction
  | _ => exact bind_eq_ok.mpr ⟨a, h, rfl⟩

/-- What is read from the items of an array is read from one of them each. -/
theorem exists_of_mem_mapM {f : α → Except Fault β} {items : List α} {bs : List β}
    (h : items.mapM f = .ok bs) {b : β} (hb : b ∈ bs) : ∃ a ∈ items, f a = .ok b := by
  induction items generalizing bs with
  | nil =>
      cases h
      cases hb
  | cons a items ih =>
      rw [List.mapM_cons] at h
      obtain ⟨c, ha, h⟩ := bind_eq_ok.mp h
      obtain ⟨cs, hrest, h⟩ := bind_eq_ok.mp h
      cases h
      rcases List.mem_cons.mp hb with rfl | hmem
      · exact ⟨a, List.mem_cons_self, ha⟩
      · obtain ⟨a', ha', hread⟩ := ih hrest hmem
        exact ⟨a', List.mem_cons_of_mem a ha', hread⟩

theorem mapM_map_of_forall {f : Json → Except Fault α} {g : α → Json} {items : List α}
    (h : ∀ a ∈ items, f (g a) = .ok a) : (items.map g).mapM f = .ok items := by
  induction items with
  | nil => rfl
  | cons a items ih =>
      rw [List.map_cons, List.mapM_cons, h a List.mem_cons_self,
        ih fun b hb => h b (List.mem_cons_of_mem a hb)]
      rfl

/-! ## Fields -/

/-- A field keeps a property of what has been read so far. -/
def FieldKeeps (p : σ → Prop) (f : Field σ) : Prop :=
  ∀ s j s', j.IsRepresentable → p s → f.setFromValue s j = .ok s' → p s'

theorem fieldKeeps_of
    {p : σ → Prop} {names : List String} {required : Bool} {d : Decoder α}
    {get : σ → Option α} {set : σ → α → σ}
    (h : ∀ s j a, j.IsRepresentable → d.fromValue j = .ok a → p s → p (set s a)) :
    FieldKeeps p (Field.of names required d get set) := by
  intro s j s' hj hs hset
  obtain ⟨a, hread, hset⟩ := bind_eq_ok.mp hset
  cases hset
  exact h s j a hj hread hs

theorem membersFromValue_keeps
    {p : σ → Prop} (hfields : ∀ f ∈ fields, FieldKeeps p f) {ms : List (String × Json)}
    (hms : ∀ m ∈ ms, m.2.IsRepresentable) {s s' : σ} (hs : p s)
    (h : membersFromValue fields ms s = .ok s') : p s' := by
  induction ms generalizing s with
  | nil =>
      cases h
      exact hs
  | cons m ms ih =>
      have hrest := fun m' hm' => hms m' (List.mem_cons_of_mem m hm')
      unfold membersFromValue at h
      split at h
      · rename_i f hf
        split at h
        · cases h
        · obtain ⟨next, hset, h⟩ := bind_eq_ok.mp h
          have hmem := List.mem_of_find?_eq_some hf
          exact ih hrest (hfields f hmem s m.2 next (hms m List.mem_cons_self) hs hset) h
      · exact ih hrest hs h

theorem fieldsFromValue_keeps
    {p : σ → Prop} (hfields : ∀ f ∈ fields, FieldKeeps p f) {js : List Json}
    (hjs : ∀ j ∈ js, j.IsRepresentable) {s s' : σ} (hs : p s)
    (h : fieldsFromValue fields js s = .ok s') : p s' := by
  induction fields generalizing js s with
  | nil =>
      cases h
      exact hs
  | cons f fields ih =>
      cases js with
      | nil =>
          cases h
          exact hs
      | cons j js =>
          obtain ⟨next, hset, h⟩ := bind_eq_ok.mp h
          have hnext := hfields f List.mem_cons_self s j next (hjs j List.mem_cons_self) hs hset
          exact ih (fun g hg => hfields g (List.mem_cons_of_mem f hg))
            (fun j' hj' => hjs j' (List.mem_cons_of_mem j hj')) hnext h

variable {expected : String} {start : σ} {finish : σ → α}

theorem eq_of_check {byName : Bool} {s : σ} {a : α}
    (h : record.check expected fields finish byName s = .ok a) : a = finish s := by
  unfold record.check at h
  split at h
  · cases h
  · cases h
    rfl

/-- What every field keeps holds of what is read before the record is completed. -/
theorem exists_of_record
    {p : σ → Prop} (hfields : ∀ f ∈ fields, FieldKeeps p f) (hstart : p start) {j : Json}
    (hj : j.IsRepresentable) {a : α}
    (h : (record expected fields start finish).fromValue j = .ok a) :
    ∃ s, p s ∧ a = finish s := by
  cases hj with
  | object ms hms =>
      obtain ⟨s, hread, h⟩ := bind_eq_ok.mp h
      exact ⟨s, membersFromValue_keeps hfields hms hstart hread, eq_of_check h⟩
  | array js hjs =>
      obtain ⟨s, hread, h⟩ := bind_eq_ok.mp h
      obtain ⟨b, hcheck, h⟩ := bind_eq_ok.mp h
      split at h
      · cases h
      · cases h
        exact ⟨s, fieldsFromValue_keeps hfields hjs hstart hread, eq_of_check hcheck⟩
  | _ => cases h

/-! ## Members of fields -/

variable {k : String} {j : Json} {rest : List (String × Json)} {s s' : σ} {f : Field σ}

theorem setFromValue_of_ok
    {names : List String} {required : Bool} {d : Decoder α} {get : σ → Option α}
    {set : σ → α → σ} {a : α} (h : d.fromValue j = .ok a) :
    (Field.of names required d get set).setFromValue s j = .ok (set s a) :=
  bind_eq_ok.mpr ⟨a, h, rfl⟩

/-- A member of a field that is not set is read into it. -/
theorem membersFromValue_cons (hfield : fieldOf? fields k = some f) (hset : f.isSet s = false)
    (hread : f.setFromValue s j = .ok s') :
    membersFromValue fields ((k, j) :: rest) s = membersFromValue fields rest s' := by
  rw [membersFromValue]
  simp only [hfield, hset, hread]
  rfl

/-- A record is complete when every required field is set. -/
theorem record_of_members {ms : List (String × Json)}
    (hread : membersFromValue fields ms start = .ok s) (hset : missing? fields s = none) :
    (record expected fields start finish).fromValue (.object ms) = .ok (finish s) := by
  refine bind_eq_ok.mpr ⟨s, hread, ?_⟩
  unfold record.check lack
  rw [hset]
  rfl

end Decoder

end TraceCheck.Json
