import Std.Data.ExtTreeMap.Lemmas
import TraceCheck.Rule.Basic

/-!
# Stores of rules

A store holds at most one rule an identifier. `RuleStore.get?` is the view of a store:
two stores with the same rules are equal, however they came about, and their lists
are in the order of the identifiers.
-/

namespace TraceCheck

/-- Rules by their identifiers. -/
structure RuleStore where
  rules : Std.ExtTreeMap String Rule
  id_eq : ∀ {id : String} {r : Rule}, rules[id]? = some r → r.id = id

namespace RuleStore

/-- The store without rules. -/
def empty : RuleStore := ⟨∅, by simp⟩

instance : EmptyCollection RuleStore := ⟨empty⟩

/-- The rule of an identifier. -/
def get? (s : RuleStore) (id : String) : Option Rule :=
  s.rules[id]?

/-- Put a rule in the place of the one with its identifier, if there is one. -/
def insert (s : RuleStore) (r : Rule) : RuleStore where
  rules := s.rules.insert r.id r
  id_eq {id r'} h := by
    rw [Std.ExtTreeMap.getElem?_insert] at h
    split at h
    · rename_i same
      rw [Std.LawfulEqCmp.compare_eq_iff_eq] at same
      cases h
      exact same
    · exact s.id_eq h

/-- Remove the rule of an identifier. -/
def erase (s : RuleStore) (id : String) : RuleStore where
  rules := s.rules.erase id
  id_eq {id' r} h := by
    rw [Std.ExtTreeMap.getElem?_erase] at h
    split at h
    · cases h
    · exact s.id_eq h

/-- The rules in the order of their identifiers. -/
def toList (s : RuleStore) : List Rule :=
  s.rules.toList.map (·.2)

/-- The identifiers in order. -/
def ids (s : RuleStore) : List String :=
  s.rules.keys

/-- The number of rules. -/
def size (s : RuleStore) : Nat :=
  s.rules.size

/-- Whether there are no rules. -/
def isEmpty (s : RuleStore) : Bool :=
  s.rules.isEmpty

/-- The rules that are evaluated, in the order of their identifiers. -/
def enabled (s : RuleStore) : List Rule :=
  s.toList.filter (·.enabled)

/-- Set whether the rule of an identifier is evaluated, if there is one. -/
def setEnabled? (s : RuleStore) (id : String) (enabled : Bool) : Option RuleStore :=
  (s.get? id).map fun r => s.insert { r with enabled }

/-- A store is known by the rules of its identifiers. -/
theorem ext {s t : RuleStore} (h : ∀ id, s.get? id = t.get? id) : s = t := by
  obtain ⟨rules, _⟩ := s
  obtain ⟨rules', _⟩ := t
  obtain rfl : rules = rules' := Std.ExtTreeMap.ext_getElem? h
  rfl

@[simp] theorem get?_empty (id : String) : get? ∅ id = none :=
  Std.ExtTreeMap.getElem?_empty

theorem get?_insert (s : RuleStore) (r : Rule) (id : String) :
    (s.insert r).get? id = if r.id = id then some r else s.get? id := by
  simp [get?, insert, Std.ExtTreeMap.getElem?_insert]

theorem get?_erase (s : RuleStore) (id id' : String) :
    (s.erase id).get? id' = if id = id' then none else s.get? id' := by
  simp [get?, erase, Std.ExtTreeMap.getElem?_erase]

theorem id_of_get? {s : RuleStore} {id : String} {r : Rule} (h : s.get? id = some r) :
    r.id = id :=
  s.id_eq h

/-! ## Lists of a store -/

theorem compare_eq_lt_iff {a b : String} : compare a b = .lt ↔ a < b :=
  compareOfLessAndEq_eq_lt

theorem mem_toList {s : RuleStore} {r : Rule} : r ∈ s.toList ↔ s.get? r.id = some r := by
  unfold toList get?
  simp only [List.mem_map, Prod.exists, exists_eq_right]
  constructor
  · rintro ⟨id, h⟩
    rw [Std.ExtTreeMap.mem_toList_iff_getElem?_eq_some] at h
    rwa [s.id_eq h]
  · intro h
    exact ⟨r.id, Std.ExtTreeMap.mem_toList_iff_getElem?_eq_some.mpr h⟩

theorem map_id_toList (s : RuleStore) : s.toList.map (·.id) = s.ids := by
  have hid : ∀ p ∈ s.rules.toList, p.2.id = p.1 := by
    rintro ⟨id, r⟩ h
    exact s.id_eq (Std.ExtTreeMap.mem_toList_iff_getElem?_eq_some.mp h)
  unfold toList ids
  rw [List.map_map, ← Std.ExtTreeMap.map_fst_toList_eq_keys]
  exact List.map_congr_left hid

theorem ids_ascending (s : RuleStore) : s.ids.Pairwise (· < ·) :=
  Std.ExtTreeMap.ordered_keys.imp fun h => compare_eq_lt_iff.mp h

theorem toList_ascending (s : RuleStore) : s.toList.Pairwise (·.id < ·.id) := by
  have h := s.ids_ascending
  rwa [← s.map_id_toList, List.pairwise_map] at h

theorem mem_ids {s : RuleStore} {id : String} : id ∈ s.ids ↔ ∃ r, s.get? id = some r := by
  unfold ids get?
  rw [Std.ExtTreeMap.mem_keys, Std.ExtTreeMap.mem_iff_isSome_getElem?, Option.isSome_iff_exists]

theorem size_eq_length_ids (s : RuleStore) : s.size = s.ids.length :=
  Std.ExtTreeMap.length_keys.symm

theorem mem_enabled {s : RuleStore} {r : Rule} :
    r ∈ s.enabled ↔ s.get? r.id = some r ∧ r.enabled = true := by
  rw [enabled, List.mem_filter, mem_toList]

theorem enabled_ascending (s : RuleStore) : s.enabled.Pairwise (·.id < ·.id) :=
  s.toList_ascending.filter _

theorem toList_nodup (s : RuleStore) : s.toList.Nodup := by
  refine List.Pairwise.imp ?_ s.toList_ascending
  rintro r _ h rfl
  exact String.lt_irrefl r.id h

theorem enabled_nodup (s : RuleStore) : s.enabled.Nodup :=
  s.toList_nodup.filter _

theorem get?_setEnabled? {s t : RuleStore} {id : String} {enabled : Bool}
    (h : s.setEnabled? id enabled = some t) (id' : String) :
    t.get? id' =
      if id = id' then (s.get? id).map ({ · with enabled }) else s.get? id' := by
  obtain ⟨r, hr, rfl⟩ := Option.map_eq_some_iff.mp h
  rw [get?_insert, hr]
  obtain rfl : r.id = id := id_of_get? hr
  rfl

end RuleStore

end TraceCheck
