import TraceCheck.Engine.Delivery
import TraceCheck.Proofs.Engine.History

/-!
# Failures of engines

A step that ends in an error leaves the rules of an engine and what has been delivered
as they are.  The one exception is a directory that is to be loaded completely or not
at all: it is given up at the first entry that is refused, and the rules in front of
that entry stay stored.
-/

namespace TraceCheck

/-! ## Sessions -/

/-- An engine and the collector to which its violations are delivered. -/
structure Session where
  engine : Engine := {}
  collector : Collector := {}

/-- The error that a result is, if it is one. -/
def EngineError.ofResult? {α : Type} : Except EngineError α → Option EngineError
  | .ok _ => none
  | .error f => some f

/-- The error in which a request ends, if it does. -/
def Engine.error? (e : Engine) : Request → Option EngineError
  | .add d => EngineError.ofResult? (e.add d).1
  | .replace d => EngineError.ofResult? (e.replace d).1
  | .remove id => EngineError.ofResult? (e.remove id).1
  | .setEnabled id enabled => EngineError.ofResult? (e.setEnabled id enabled).1
  | .load dir failFast => EngineError.ofResult? (e.load dir failFast).1
  | .evaluate t => EngineError.ofResult? (e.evaluate t)

namespace Session

/-- What can be done in a session. -/
inductive Step where
  | request (q : Request)
  /-- Deliver the violations by a trace. -/
  | publish (t : Trace)
  /-- Take what has been delivered. -/
  | take

/-- The session after a step. -/
def perform (s : Session) : Step → Session
  | .request q => { s with engine := s.engine.perform q }
  | .publish t => { s with collector := (s.engine.publish t s.collector).2 }
  | .take => { s with collector := s.collector.take.2 }

/-- The error in which a step ends, if it does. -/
def error? (s : Session) : Step → Option EngineError
  | .request q => s.engine.error? q
  | .publish t => EngineError.ofResult? (s.engine.publish t s.collector).1
  | .take => none

end Session

/-! ## Entries -/

/-- A rule is that of a definition, under its identifier or a new one. -/
def Definition.HasRule (l : Limits) (d : Definition) (r : Rule) : Prop :=
  d.id.getD r.id = r.id ∧ d.compile l r.id = .ok r

/-- An entry has no rule because of an error: no definition could be read, or the text
of the definition is not valid. -/
def EngineError.Refuses (l : Limits) (f : EngineError) : Except EngineError Definition → Prop
  | .error f' => f' = f
  | .ok d => ∃ id errors,
      d.id.getD id = id ∧ d.compile l id = .error errors ∧ f = .compilation id errors

/-- Storing the rules of some entries was given up at the first one that is refused:
the rules of the definitions in front of it were stored one after the other, and
nothing else happened to the store. -/
def RuleStore.GivenUp (l : Limits) (f : EngineError)
    (entries : List (Except EngineError Definition)) (store store' : RuleStore) : Prop :=
  ∃ ds rs entry rest,
    entries = ds.map .ok ++ entry :: rest ∧ List.Forall₂ (Definition.HasRule l) ds rs ∧
      f.Refuses l entry ∧ store' = rs.foldl .insert store

variable {e : Engine} {f : EngineError}

theorem EngineError.ofResult?_eq_some_iff {α : Type} {result : Except EngineError α} :
    EngineError.ofResult? result = some f ↔ result = .error f := by
  cases result with
  | ok a => exact ⟨nofun, nofun⟩
  | error f' => simp [EngineError.ofResult?]

open EngineError (ofResult?_eq_some_iff)

namespace Engine

/-- A definition without a rule is refused. -/
theorem refuses_of_compileDefinition
    {d : Definition} (h : (e.compileDefinition d).1 = .error f) :
    f.Refuses e.limits (.ok d) := by
  change (d.compile e.limits (e.ids.resolve d.id).1).mapError _ = .error f at h
  cases hcompile : d.compile e.limits (e.ids.resolve d.id).1 with
  | ok r =>
      rw [hcompile] at h
      cases h
  | error errors =>
      rw [hcompile] at h
      injection h with h
      exact ⟨_, errors, getD_resolve e.ids d.id, hcompile, h.symm⟩

/-- An entry is stored as the rule of its definition, or it is refused and the store
stays as it is. -/
theorem addEntry_cases (e : Engine) (entry : Except EngineError Definition) :
    (∃ d r, entry = .ok d ∧ d.HasRule e.limits r ∧ (e.addEntry entry).1 = .ok r ∧
        (e.addEntry entry).2.limits = e.limits ∧
        (e.addEntry entry).2.store = e.store.insert r) ∨
      ∃ f, (e.addEntry entry).1 = .error f ∧ f.Refuses e.limits entry ∧
        (e.addEntry entry).2.store = e.store := by
  cases entry with
  | error f => exact .inr ⟨f, rfl, rfl, rfl⟩
  | ok d =>
      cases hcompile : (e.compileDefinition d).1 with
      | ok r =>
          refine .inl ⟨d, r, rfl, compile_of_compileDefinition hcompile, ?_⟩
          rw [addEntry, add_of_ok hcompile]
          exact ⟨rfl, rfl, rfl⟩
      | error f =>
          refine .inr ⟨f, ?_, refuses_of_compileDefinition hcompile, ?_⟩
          · rw [addEntry, add_of_error hcompile]
          · rw [addEntry, add_of_error hcompile]
            rfl

/-- Entries of which all are wanted are stored up to the first that is refused. -/
theorem givenUp_of_loadEntries
    {entries : List (Except EngineError Definition)} {report : LoadReport}
    (h : (loadEntries true e entries report).1 = .error f) :
    RuleStore.GivenUp e.limits f entries e.store (loadEntries true e entries report).2.store := by
  induction entries generalizing e report with
  | nil => cases h
  | cons entry rest ih =>
      have hcases := e.addEntry_cases entry
      unfold loadEntries at h ⊢
      generalize e.addEntry entry = added at h hcases ⊢
      obtain ⟨result, e'⟩ := added
      rcases hcases with ⟨d, r, rfl, hr, hfst, hlimits, hstore⟩ | ⟨f', hfst, hrefuses, hstore⟩
      · obtain rfl : result = .ok r := hfst
        obtain ⟨ds, rs, entry, rest, hsplit, hrs, hrefuses, hfinal⟩ := ih h
        rw [hlimits] at hrs hrefuses
        rw [hstore] at hfinal
        exact ⟨d :: ds, r :: rs, entry, rest, congrArg _ hsplit, .cons hr hrs, hrefuses, hfinal⟩
      · obtain rfl : result = .error f' := hfst
        injection h with h
        subst h
        exact ⟨[], [], entry, rest, rfl, .nil, hrefuses, hstore⟩

/-- Entries that are passed over when they are refused never end in an error. -/
theorem loadEntries_ne_error
    (entries : List (Except EngineError Definition)) (report : LoadReport) :
    (loadEntries false e entries report).1 ≠ .error f := by
  induction entries generalizing e report with
  | nil => nofun
  | cons entry rest ih =>
      unfold loadEntries
      rcases e.addEntry entry with ⟨_ | _, e'⟩
      · exact ih _
      · exact ih _

/-! ## Requests -/

theorem store_replace_of_error {d : Definition} (h : (e.replace d).1 = .error f) :
    (e.replace d).2.store = e.store := by
  unfold replace at h ⊢
  rcases hcompile : e.compileDefinition d with ⟨f' | r, e'⟩
  · obtain rfl : (e.compileDefinition d).2 = e' := by rw [hcompile]
    rfl
  · rw [hcompile] at h
    cases h

theorem store_remove_of_error {id : String} (h : (e.remove id).1 = .error f) :
    (e.remove id).2.store = e.store := by
  unfold remove at h ⊢
  cases hfound : e.store.get? id with
  | none => rfl
  | some r =>
      rw [hfound] at h
      cases h

theorem store_setEnabled_of_error {id : String} {enabled : Bool}
    (h : (e.setEnabled id enabled).1 = .error f) :
    (e.setEnabled id enabled).2.store = e.store := by
  unfold setEnabled at h ⊢
  cases hswitched : e.store.setEnabled? id enabled with
  | none => rfl
  | some store =>
      rw [hswitched] at h
      cases h

theorem store_load_of_error {dir : RuleDirectory} (h : (e.load dir false).1 = .error f) :
    (e.load dir false).2.store = e.store := by
  unfold load at h ⊢
  cases hfiles : dir.files with
  | none => rfl
  | some files =>
      rw [hfiles] at h
      exact absurd h (loadEntries_ne_error _ _)

/-- A request that ends in an error does not touch the store, unless a directory was to
be loaded as a whole. -/
theorem store_perform_of_error
    {q : Request} (h : e.error? q = some f) (hq : ∀ dir, q ≠ .load dir true) :
    (e.perform q).store = e.store := by
  cases q with
  | add d =>
      have herror : (e.addEntry (.ok d)).1 = .error f := ofResult?_eq_some_iff.mp h
      rcases e.addEntry_cases (.ok d) with ⟨_, _, _, _, hok, _⟩ | ⟨_, _, _, hstore⟩
      · rw [hok] at herror
        cases herror
      · exact hstore
  | replace d => exact store_replace_of_error (ofResult?_eq_some_iff.mp h)
  | remove id => exact store_remove_of_error (ofResult?_eq_some_iff.mp h)
  | setEnabled id enabled => exact store_setEnabled_of_error (ofResult?_eq_some_iff.mp h)
  | load dir failFast =>
      cases failFast with
      | true => exact absurd rfl (hq dir)
      | false => exact store_load_of_error (ofResult?_eq_some_iff.mp h)
  | evaluate t => rfl

/-- A directory that is not there leaves the store as it is. -/
theorem store_load_of_files_eq_none {dir : RuleDirectory} (hfiles : dir.files = none) :
    (e.load dir true).2.store = e.store := by
  unfold load
  rw [hfiles]

/-- A directory that was to be loaded as a whole is given up at the first entry that is
refused. -/
theorem givenUp_of_load
    {dir : RuleDirectory} {files : List RuleFile} (hfiles : dir.files = some files)
    (h : (e.load dir true).1 = .error f) :
    RuleStore.GivenUp e.limits f ((RuleDirectory.sortedFiles files).flatMap dir.entriesOf)
      e.store (e.load dir true).2.store := by
  unfold load at h ⊢
  rw [hfiles] at h ⊢
  exact givenUp_of_loadEntries h

end Engine

namespace Session

/-- A step that ends in an error delivers nothing and takes nothing away, and leaves the
store as it is.  Only a directory that was to be loaded as a whole is different: unless
it is not there, it was given up at the first entry that is refused, in the order of
the files and of the definitions in them, and the rules of the definitions in front of
that entry stay. -/
theorem perform_of_error (s : Session) (step : Step) (f : EngineError)
    (h : s.error? step = some f) :
    (s.perform step).collector = s.collector ∧
      ((∀ dir, step ≠ .request (.load dir true)) →
        (s.perform step).engine.store = s.engine.store) ∧
      ∀ dir, step = .request (.load dir true) →
        (dir.files = none → (s.perform step).engine.store = s.engine.store) ∧
        ∀ files, dir.files = some files →
          RuleStore.GivenUp s.engine.limits f
            ((RuleDirectory.sortedFiles files).flatMap dir.entriesOf)
            s.engine.store (s.perform step).engine.store := by
  cases step with
  | request q =>
      refine ⟨rfl, fun hother => ?_, ?_⟩
      · exact Engine.store_perform_of_error h fun dir heq => hother dir (congrArg _ heq)
      · intro dir hload
        injection hload with hload
        subst hload
        refine ⟨Engine.store_load_of_files_eq_none, fun files hfiles => ?_⟩
        exact Engine.givenUp_of_load hfiles (ofResult?_eq_some_iff.mp h)
  | publish t =>
      have herror : (s.engine.publish t s.collector).1 = .error f :=
        ofResult?_eq_some_iff.mp h
      refine ⟨?_, fun _ => rfl, nofun⟩
      change (s.engine.publish t s.collector).2 = s.collector
      unfold Engine.publish at herror ⊢
      cases hanswer : s.engine.evaluate t with
      | ok vs =>
          rw [hanswer] at herror
          cases herror
      | error f' => rfl
  | take => cases h

/-- A file with a valid definition and one that is cut off. -/
def cutOffFile : RuleFile :=
  { path := ["a.yml"]
    content := .ok ("- id: r1\n  name: first\n  expression: trace.has(a.b)\n" ++
      "- id: r2\n  name: second\n  expression: trace.has(\n") }

/-- A directory with one file. -/
def cutOffDirectory : RuleDirectory :=
  { name := "rules", files := some [cutOffFile] }

theorem exists_error_cutOffDirectory :
    ∃ f, ({} : Session).error? (.request (.load cutOffDirectory true)) = some f :=
  Option.isSome_iff_exists.mp (by decide +kernel)

/-- The first definition of a directory that is given up stays stored. -/
theorem givenUp_cutOffDirectory :
    ∃ f, ({} : Session).error? (.request (.load cutOffDirectory true)) = some f ∧
      RuleStore.GivenUp {} f
        ((RuleDirectory.sortedFiles [cutOffFile]).flatMap cutOffDirectory.entriesOf)
        ∅ (({} : Session).perform (.request (.load cutOffDirectory true))).engine.store := by
  obtain ⟨f, hf⟩ := exists_error_cutOffDirectory
  exact ⟨f, hf, ((perform_of_error {} _ f hf).2.2 cutOffDirectory rfl).2 _ rfl⟩

/-- Not every step that ends in an error leaves the store as it is. -/
theorem store_changed_by_failed_load :
    ¬ ∀ (s : Session) (step : Step) (f : EngineError), s.error? step = some f →
      (s.perform step).engine.store = s.engine.store := by
  intro hall
  obtain ⟨f, hf⟩ := exists_error_cutOffDirectory
  have hids : (({} : Session).perform
      (.request (.load cutOffDirectory true))).engine.store.ids = ["r1"] := by
    decide +kernel
  rw [hall _ _ f hf] at hids
  exact absurd hids (by decide +kernel)

end Session

end TraceCheck
