import Mathlib.Data.List.Induction
import TraceCheck.Engine.Basic

/-!
# Histories of engines

A run of requests changes the rules of an engine only where a request succeeds.  The
changes are read off the results of the requests, and the rules afterwards are what
the changes say: under each identifier stands the rule that was stored last, unless
it was removed since, as it was last switched.
-/

namespace TraceCheck

/-! ## Requests and changes -/

/-- What an engine can be asked to do. -/
inductive Request where
  | add (d : Definition)
  | replace (d : Definition)
  | remove (id : String)
  | setEnabled (id : String) (enabled : Bool)
  | load (dir : RuleDirectory) (failFast : Bool)
  | evaluate (t : Trace)

/-- What a successful step of a request does to the rules. -/
inductive Change where
  | stored (id : String) (d : Definition)
  | removed (id : String)
  | switched (id : String) (enabled : Bool)

namespace Change

/-- A definition was stored if there is a rule of it. -/
def ofRule (d : Definition) : Except EngineError Rule → List Change
  | .ok r => [.stored r.id d]
  | .error _ => []

/-- The definition of an entry was stored if there is one and a rule of it. -/
def ofEntry : Except EngineError Definition → Except EngineError Rule → List Change
  | .ok d, result => ofRule d result
  | .error _, _ => []

/-- A change took place if there is a result. -/
def ofResult {α : Type} (c : Change) : Except EngineError α → List Change
  | .ok _ => [c]
  | .error _ => []

/-- A change stores a rule under an identifier or removes the one there. -/
def Settles (id : String) : Change → Prop
  | .stored id' _ => id' = id
  | .removed id' => id' = id
  | .switched _ _ => False

/-- The last change that settles what stands under an identifier stored a definition;
the changes since then are given as well. -/
def LastStored (history : List Change) (id : String) (d : Definition)
    (since : List Change) : Prop :=
  (∃ before, history = before ++ .stored id d :: since) ∧ ∀ c ∈ since, ¬ c.Settles id

/-- The value to which a change switches the rule under an identifier. -/
def flag? (id : String) : Change → Option Bool
  | .switched id' enabled => if id' = id then some enabled else none
  | _ => none

/-- The value to which the rule under an identifier was switched last. -/
def lastFlag? (id : String) (since : List Change) : Option Bool :=
  (since.filterMap (flag? id)).getLast?

end Change

namespace Engine

/-- The changes by the entries of files, up to the one that ends the loading. -/
def entriesChanges (failFast : Bool) :
    Engine → List (Except EngineError Definition) → List Change
  | _, [] => []
  | e, entry :: rest =>
    let (result, e') := e.addEntry entry
    Change.ofEntry entry result ++
      if failFast && !result.toBool then [] else entriesChanges failFast e' rest

/-- The changes by loading a directory. -/
def loadChanges (e : Engine) (dir : RuleDirectory) (failFast : Bool) : List Change :=
  match dir.files with
  | none => []
  | some files =>
    e.entriesChanges failFast ((RuleDirectory.sortedFiles files).flatMap dir.entriesOf)

/-- The changes by a request, as its results tell. -/
def changes (e : Engine) : Request → List Change
  | .add d => Change.ofRule d (e.add d).1
  | .replace d => Change.ofRule d (e.compileDefinition d).1
  | .remove id => Change.ofResult (.removed id) (e.remove id).1
  | .setEnabled id enabled => Change.ofResult (.switched id enabled) (e.setEnabled id enabled).1
  | .load dir failFast => e.loadChanges dir failFast
  | .evaluate _ => []

/-- The engine after a request. -/
def perform (e : Engine) : Request → Engine
  | .add d => (e.add d).2
  | .replace d => (e.replace d).2
  | .remove id => (e.remove id).2
  | .setEnabled id enabled => (e.setEnabled id enabled).2
  | .load dir failFast => (e.load dir failFast).2
  | .evaluate _ => e

/-- The engine after some requests. -/
def run (e : Engine) (requests : List Request) : Engine :=
  requests.foldl perform e

/-- The changes by some requests, one after the other. -/
def history : Engine → List Request → List Change
  | _, [] => []
  | e, q :: rest => e.changes q ++ (e.perform q).history rest

end Engine

/-! ## Replaying changes -/

namespace Change

variable (l : Limits) (id : String)

/-- The rule under an identifier after a change. -/
def apply (found : Option Rule) : Change → Option Rule
  | .stored id' d => if id' = id then (d.compile l id).toOption else found
  | .removed id' => if id' = id then none else found
  | .switched id' enabled => if id' = id then found.map ({ · with enabled }) else found

/-- The rule under an identifier after some changes. -/
def replay (found : Option Rule) (cs : List Change) : Option Rule :=
  cs.foldl (apply l id) found

/-- A definition was stored under its own identifier, if it has one, and compiles. -/
def Compiles : Change → Prop
  | .stored id d => d.id.getD id = id ∧ ∃ r, d.compile l id = .ok r
  | _ => True

variable {l id}

/-- Changes that do not settle what stands under an identifier only switch it. -/
theorem replay_of_not_settles
    {since : List Change} (h : ∀ c ∈ since, ¬ c.Settles id) (r : Rule) :
    replay l id (some r) since =
      some { r with enabled := (lastFlag? id since).getD r.enabled } := by
  induction since using List.reverseRecOn with
  | nil => rfl
  | append_singleton since c ih =>
      obtain ⟨hsince, hc⟩ := List.forall_mem_append.mp h
      have hquiet : ¬ c.Settles id := hc c List.mem_cons_self
      have hreplay := ih hsince
      unfold replay at hreplay ⊢
      rw [List.foldl_append, hreplay, List.foldl_cons, List.foldl_nil]
      unfold lastFlag?
      rw [List.filterMap_append]
      cases c with
      | stored id' d =>
          have hne : id' ≠ id := hquiet
          simp [apply, flag?, hne]
      | removed id' =>
          have hne : id' ≠ id := hquiet
          simp [apply, flag?, hne]
      | switched id' enabled =>
          by_cases hid : id' = id
          · simp [apply, flag?, hid]
          · simp [apply, flag?, hid]

/-- The rule that stands under an identifier was stored at some time. -/
theorem exists_lastStored
    {history : List Change} {r : Rule} (h : replay l id none history = some r) :
    ∃ d since, LastStored history id d since := by
  induction history using List.reverseRecOn generalizing r with
  | nil => cases h
  | append_singleton history c ih =>
      unfold replay at h
      rw [List.foldl_append, List.foldl_cons, List.foldl_nil] at h
      change apply l id (replay l id none history) c = some r at h
      have hlater {found : Rule} (hfound : replay l id none history = some found)
          (hquiet : ¬ c.Settles id) : ∃ d since, LastStored (history ++ [c]) id d since := by
        obtain ⟨d, since, ⟨before, rfl⟩, hsince⟩ := ih hfound
        refine ⟨d, since ++ [c], ⟨before, by simp⟩, ?_⟩
        exact List.forall_mem_append.mpr ⟨hsince, List.forall_mem_singleton.mpr hquiet⟩
      cases c with
      | stored id' d =>
          by_cases hid : id' = id
          · subst hid
            exact ⟨d, [], ⟨history, rfl⟩, List.forall_mem_nil _⟩
          · rw [apply, if_neg hid] at h
            exact hlater h hid
      | removed id' =>
          by_cases hid : id' = id
          · rw [apply, if_pos hid] at h
            cases h
          · rw [apply, if_neg hid] at h
            exact hlater h hid
      | switched id' enabled =>
          by_cases hid : id' = id
          · rw [apply, if_pos hid] at h
            obtain ⟨found, hfound, -⟩ := Option.map_eq_some_iff.mp h
            exact hlater hfound not_false
          · rw [apply, if_neg hid] at h
            exact hlater h not_false

/-- The rule of the definition that was stored last, as it was switched since, stands
under the identifier. -/
theorem LastStored.replay_eq
    {history since : List Change} {d : Definition} (h : LastStored history id d since)
    (hcompiles : ∀ c ∈ history, c.Compiles l) :
    d.id.getD id = id ∧ ∃ r, d.compile l id = .ok r ∧
      replay l id none history =
        some { r with enabled := (lastFlag? id since).getD r.enabled } := by
  obtain ⟨⟨before, rfl⟩, hsince⟩ := h
  obtain ⟨hid, r, hr⟩ := hcompiles (.stored id d) (by simp)
  refine ⟨hid, r, hr, ?_⟩
  rw [← replay_of_not_settles hsince]
  unfold replay
  rw [List.foldl_append, List.foldl_cons, apply, if_pos rfl, hr]
  rfl

end Change

/-! ## What requests do -/

/-- The text of a rule is valid, and the rule has what checking the text yields. -/
structure Rule.IsChecked (r : Rule) (l : Limits) : Prop where
  valid : (check l r.source).isValid = true
  ast : (check l r.source).ast = some r.ast
  warnings : (check l r.source).warnings = r.warnings

theorem Verdict.accepted_eq_ok {v : Verdict} {a : Expr} (h : v.accepted = .ok a) :
    v.isValid = true ∧ v.ast = some a := by
  unfold Verdict.accepted at h
  split at h
  · next hvalid hast =>
      injection h with h
      exact ⟨hvalid, h ▸ hast⟩
  · cases h

theorem Definition.compile_eq_ok
    {l : Limits} {id : String} {d : Definition} {r : Rule} (h : d.compile l id = .ok r) :
    r.id = id ∧ r.IsChecked l := by
  unfold Definition.compile at h
  dsimp only at h
  cases haccepted : (check l d.expression).accepted with
  | error f =>
      rw [haccepted] at h
      cases h
  | ok a =>
      obtain ⟨hvalid, hast⟩ := Verdict.accepted_eq_ok haccepted
      rw [haccepted] at h
      injection h with h
      subst h
      exact ⟨rfl, hvalid, hast, rfl⟩

namespace Engine

/-- An engine becomes another one by some changes. -/
structure Follows (e e' : Engine) (cs : List Change) : Prop where
  limits : e'.limits = e.limits
  compiles : ∀ c ∈ cs, c.Compiles e.limits
  store : ∀ id, e'.store.get? id = Change.replay e.limits id (e.store.get? id) cs

variable {e e' e'' : Engine} {cs cs' : List Change}

theorem Follows.of_same (hlimits : e'.limits = e.limits) (hstore : e'.store = e.store) :
    e.Follows e' [] where
  limits := hlimits
  compiles := List.forall_mem_nil _
  store id := by rw [hstore]; rfl

theorem Follows.trans (h : e.Follows e' cs) (h' : e'.Follows e'' cs') :
    e.Follows e'' (cs ++ cs') where
  limits := h'.limits.trans h.limits
  compiles := List.forall_mem_append.mpr ⟨h.compiles, h.limits ▸ h'.compiles⟩
  store id := by
    rw [h'.store, h.store, h.limits]
    exact List.foldl_append.symm

/-- A definition keeps the identifier that it has. -/
theorem getD_resolve (ids : IdSupply) (id : Option String) :
    id.getD (ids.resolve id).1 = (ids.resolve id).1 := by
  cases id <;> rfl

theorem compile_of_compileDefinition
    {d : Definition} {r : Rule} (h : (e.compileDefinition d).1 = .ok r) :
    d.id.getD r.id = r.id ∧ d.compile e.limits r.id = .ok r := by
  change (d.compile e.limits (e.ids.resolve d.id).1).mapError _ = .ok r at h
  cases hr : d.compile e.limits (e.ids.resolve d.id).1 with
  | error f =>
      rw [hr] at h
      cases h
  | ok r' =>
      rw [hr] at h
      injection h with h
      subst h
      rw [(Definition.compile_eq_ok hr).1]
      exact ⟨getD_resolve e.ids d.id, hr⟩

/-- Storing the rule of a definition changes what stands under its identifier. -/
theorem follows_insert
    {d : Definition} {r : Rule} (h : (e.compileDefinition d).1 = .ok r) :
    e.Follows ((e.compileDefinition d).2.insert r) [.stored r.id d] where
  limits := rfl
  compiles := by
    obtain ⟨hid, hr⟩ := compile_of_compileDefinition h
    exact List.forall_mem_singleton.mpr ⟨hid, r, hr⟩
  store id := by
    obtain ⟨-, hr⟩ := compile_of_compileDefinition h
    change (e.store.insert r).get? id = _
    rw [RuleStore.get?_insert, Change.replay, List.foldl_cons, List.foldl_nil, Change.apply]
    split
    · next hid =>
        subst hid
        rw [hr]
        rfl
    · rfl

theorem add_of_ok {d : Definition} {clock : Clock} {r : Rule}
    (h : (e.compileDefinition d clock).1 = .ok r) :
    e.add d clock = (.ok r, (e.compileDefinition d clock).2.insert r) := by
  unfold add
  rcases hcompile : e.compileDefinition d clock with ⟨result, e'⟩
  obtain rfl : result = .ok r := by rwa [hcompile] at h
  rfl

theorem add_of_error {d : Definition} {clock : Clock} {f : EngineError}
    (h : (e.compileDefinition d clock).1 = .error f) :
    e.add d clock = (.error f, (e.compileDefinition d clock).2) := by
  unfold add
  rcases hcompile : e.compileDefinition d clock with ⟨result, e'⟩
  obtain rfl : result = .error f := by rwa [hcompile] at h
  rfl

theorem fst_add (d : Definition) (clock : Clock) :
    (e.add d clock).1 = (e.compileDefinition d clock).1 := by
  cases h : (e.compileDefinition d clock).1 with
  | ok r => rw [add_of_ok h]
  | error f => rw [add_of_error h]

theorem follows_add (d : Definition) :
    e.Follows (e.add d).2 (Change.ofRule d (e.add d).1) := by
  cases h : (e.compileDefinition d).1 with
  | ok r =>
      rw [add_of_ok h]
      exact follows_insert h
  | error f =>
      rw [add_of_error h]
      exact Follows.of_same rfl rfl

theorem snd_replace (d : Definition) : (e.replace d).2 = (e.add d).2 := by
  unfold replace add
  rcases e.compileDefinition d with ⟨_ | _, _⟩ <;> rfl

theorem follows_replace (d : Definition) :
    e.Follows (e.replace d).2 (Change.ofRule d (e.compileDefinition d).1) := by
  rw [snd_replace, ← fst_add]
  exact follows_add d

theorem follows_remove (id : String) :
    e.Follows (e.remove id).2 (Change.ofResult (.removed id) (e.remove id).1) := by
  unfold remove
  cases hfound : e.store.get? id with
  | none => exact Follows.of_same rfl rfl
  | some r =>
      refine ⟨rfl, List.forall_mem_singleton.mpr trivial, fun id' => ?_⟩
      change (e.store.erase id).get? id' = _
      rw [RuleStore.get?_erase]
      rfl

theorem follows_setEnabled (id : String) (enabled : Bool) :
    e.Follows (e.setEnabled id enabled).2
      (Change.ofResult (.switched id enabled) (e.setEnabled id enabled).1) := by
  unfold setEnabled
  cases hswitched : e.store.setEnabled? id enabled with
  | none => exact Follows.of_same rfl rfl
  | some store =>
      refine ⟨rfl, List.forall_mem_singleton.mpr trivial, fun id' => ?_⟩
      change store.get? id' = _
      rw [RuleStore.get?_setEnabled? hswitched]
      by_cases hid : id = id'
      · subst hid
        rfl
      · simp [Change.ofResult, Change.replay, Change.apply, hid]

theorem follows_addEntry (entry : Except EngineError Definition) :
    e.Follows (e.addEntry entry).2 (Change.ofEntry entry (e.addEntry entry).1) := by
  cases entry with
  | ok d => exact follows_add d
  | error f => exact Follows.of_same rfl rfl

/-- Loading entries makes the changes by those up to the end, whatever is reported. -/
theorem follows_loadEntries
    (failFast : Bool) (entries : List (Except EngineError Definition)) (report : LoadReport) :
    e.Follows (loadEntries failFast e entries report).2 (e.entriesChanges failFast entries) := by
  induction entries generalizing e report with
  | nil => exact Follows.of_same rfl rfl
  | cons entry rest ih =>
      have hentry := follows_addEntry (e := e) entry
      unfold loadEntries entriesChanges
      rcases hadd : e.addEntry entry with ⟨f | r, e'⟩
      · rw [hadd] at hentry
        cases failFast with
        | true =>
            have hend := hentry.trans (Follows.of_same rfl rfl)
            exact hend
        | false => exact hentry.trans (ih _)
      · rw [hadd] at hentry
        have hrest := hentry.trans (ih { report with loaded := report.loaded + 1 })
        cases failFast <;> exact hrest

theorem loaded_of_loadEntries
    {failFast : Bool} {entries : List (Except EngineError Definition)} (report : LoadReport)
    {final : LoadReport} (h : (loadEntries failFast e entries report).1 = .ok final) :
    final.loaded = report.loaded + (e.entriesChanges failFast entries).length := by
  induction entries generalizing e report with
  | nil =>
      injection h with h
      subst h
      rfl
  | cons entry rest ih =>
      unfold loadEntries at h
      unfold entriesChanges
      rcases hadd : e.addEntry entry with ⟨f | r, e'⟩
      · rw [hadd] at h
        have hnone : Change.ofEntry entry (.error f) = [] := by
          cases entry <;> rfl
        cases failFast with
        | true => cases h
        | false =>
            have hrest := ih { report with failed := report.failed ++ [f] } h
            simpa [hnone] using hrest
      · rw [hadd] at h
        cases entry with
        | error f => cases hadd
        | ok d =>
            have hrest : final.loaded =
                report.loaded + 1 + (e'.entriesChanges failFast rest).length :=
              ih { report with loaded := report.loaded + 1 } h
            simp only [Except.toBool, Bool.not_true, Bool.and_false, Bool.false_eq_true,
              if_false, Change.ofEntry, Change.ofRule, List.length_append, List.length_singleton]
            omega

theorem follows_load (dir : RuleDirectory) (failFast : Bool) :
    e.Follows (e.load dir failFast).2 (e.loadChanges dir failFast) := by
  unfold load loadChanges
  cases dir.files with
  | none => exact Follows.of_same rfl rfl
  | some files => exact follows_loadEntries failFast _ _

/-- Loading a directory reports as many rules as it stores. -/
theorem loaded_of_load
    {dir : RuleDirectory} {failFast : Bool} {report : LoadReport}
    (h : (e.load dir failFast).1 = .ok report) :
    report.loaded = (e.loadChanges dir failFast).length := by
  unfold load at h
  unfold loadChanges
  cases hfiles : dir.files with
  | none =>
      rw [hfiles] at h
      cases h
  | some files =>
      rw [hfiles] at h
      have hloaded := loaded_of_loadEntries _ h
      rwa [Nat.zero_add] at hloaded

theorem follows_perform (q : Request) : e.Follows (e.perform q) (e.changes q) := by
  cases q with
  | add d => exact follows_add d
  | replace d => exact follows_replace d
  | remove id => exact follows_remove id
  | setEnabled id enabled => exact follows_setEnabled id enabled
  | load dir failFast => exact follows_load dir failFast
  | evaluate t => exact Follows.of_same rfl rfl

/-- An engine becomes what it is after a run by the history of the run. -/
theorem follows_run (requests : List Request) :
    e.Follows (e.run requests) (e.history requests) := by
  induction requests generalizing e with
  | nil => exact Follows.of_same rfl rfl
  | cons q rest ih => exact (follows_perform q).trans ih

/-- What stands in an engine after a run of requests that began without rules.  An
identifier is in use if a definition was stored under it and the rule was not removed
since.  Its rule is that of the definition, as it was switched since; its text is
valid and has been read under the limits.  The lists of the store tell the same. -/
theorem run_reflects_history (l : Limits) (ids : IdSupply) (requests : List Request) :
    let start : Engine := { limits := l, ids }
    let final := start.run requests
    let history := start.history requests
    (∀ id, (∃ r, final.store.get? id = some r) ↔
        ∃ d since, Change.LastStored history id d since) ∧
      (∀ id r d since, final.store.get? id = some r → Change.LastStored history id d since →
        d.id.getD id = id ∧ ∃ compiled, d.compile l id = .ok compiled ∧
          r = { compiled with
            enabled := (Change.lastFlag? id since).getD compiled.enabled }) ∧
      (∀ id r, final.store.get? id = some r → r.id = id ∧ r.IsChecked l) ∧
      (final.store.ids.Pairwise (· < ·) ∧
        ∀ id, id ∈ final.store.ids ↔ ∃ r, final.store.get? id = some r) ∧
      final.store.size = final.store.ids.length ∧
      final.store.enabled.Nodup ∧
      ∀ r, r ∈ final.store.enabled ↔ final.store.get? r.id = some r ∧ r.enabled = true := by
  intro start final history
  have hfollows : start.Follows final history := follows_run requests
  have hget (id : String) : final.store.get? id = Change.replay l id none history := by
    have hempty : start.store.get? id = none := RuleStore.get?_empty id
    rw [hfollows.store, hempty]
  have hstored (id : String) (d : Definition) (since : List Change)
      (h : Change.LastStored history id d since) :
      d.id.getD id = id ∧ ∃ compiled, d.compile l id = .ok compiled ∧
        final.store.get? id = some { compiled with
          enabled := (Change.lastFlag? id since).getD compiled.enabled } := by
    rw [hget id]
    exact h.replay_eq hfollows.compiles
  have hlast (id : String) (r : Rule) (h : final.store.get? id = some r) :
      ∃ d since, Change.LastStored history id d since :=
    Change.exists_lastStored ((hget id).symm.trans h)
  refine ⟨fun id => ⟨?_, ?_⟩, ?_, ?_, ⟨RuleStore.ids_ascending _, fun id => RuleStore.mem_ids⟩,
    RuleStore.size_eq_length_ids _, RuleStore.enabled_nodup _, fun r => RuleStore.mem_enabled⟩
  · rintro ⟨r, hr⟩
    exact hlast id r hr
  · rintro ⟨d, since, h⟩
    obtain ⟨-, compiled, -, hr⟩ := hstored id d since h
    exact ⟨_, hr⟩
  · intro id r d since hr h
    obtain ⟨hid, compiled, hcompiled, hr'⟩ := hstored id d since h
    exact ⟨hid, compiled, hcompiled, Option.some.inj (hr.symm.trans hr')⟩
  · intro id r hr
    obtain ⟨d, since, h⟩ := hlast id r hr
    obtain ⟨-, compiled, hcompiled, hr'⟩ := hstored id d since h
    obtain rfl := Option.some.inj (hr.symm.trans hr')
    obtain ⟨hid, hvalid, hast, hwarnings⟩ := Definition.compile_eq_ok hcompiled
    exact ⟨hid, hvalid, hast, hwarnings⟩

end Engine

end TraceCheck
