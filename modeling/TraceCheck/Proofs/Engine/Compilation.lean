import TraceCheck.Proofs.Engine.History
import TraceCheck.Proofs.Grammar.Reports

/-!
# Checking and compiling

Whether a text is valid is told by its diagnostics, while its expression comes from
reading it.  The two agree: a valid text has an expression, whatever the limits are, and
so the rule of a definition exists exactly when the text of the definition is valid.
The rule takes the expression and the remarks from the verdict.  Where there is no rule
there are the errors of the verdict, and nothing else.
-/

namespace TraceCheck

/-! ## Verdicts -/

/-- A verdict has an expression or at least one error, as its validity tells, and no
remark is among the errors. -/
structure Verdict.IsSettled (v : Verdict) : Prop where
  exists_ast : v.isValid = true → ∃ a, v.ast = some a
  errors_ne_nil : v.isValid = false → v.errors ≠ []
  level : ∀ d ∈ v.errors, d.level = .error

/-- Compiling a text has the result that the verdict on the text asks for.  There is a
rule exactly if the text is valid, with the expression and the remarks of the verdict;
else the errors of the verdict are passed on, and there are some. -/
structure Verdict.Decides {ε : Type} (v : Verdict) (wrap : List Diagnostic → ε)
    (result : Except ε Rule) : Prop where
  exists_ok_iff : (∃ r, result = .ok r) ↔ v.isValid = true
  of_ok : ∀ r, result = .ok r → v.ast = some r.ast ∧ v.warnings = r.warnings
  of_error : ∀ f, result = .error f →
    f = wrap v.errors ∧ v.errors ≠ [] ∧ ∀ d ∈ v.errors, d.level = .error

namespace Verdict

variable {v : Verdict}

theorem level_of_mem_errors_ofDiagnostics {ds : List Diagnostic} {ast : Option Expr}
    {d : Diagnostic} (hd : d ∈ (ofDiagnostics ds ast).errors) : d.level = .error :=
  of_decide_eq_true (List.mem_filter.mp hd).2

theorem accepted_of_isValid {a : Expr} (hvalid : v.isValid = true) (hast : v.ast = some a) :
    v.accepted = .ok a := by
  unfold accepted
  rw [hvalid, hast]

theorem accepted_of_not_isValid (hvalid : v.isValid = false) : v.accepted = .error v.errors := by
  unfold accepted
  rw [hvalid]

/-- A settled verdict decides about every rule that is made from its expression and its
remarks. -/
theorem IsSettled.decides_accepted (h : v.IsSettled) {make : Expr → Rule}
    (hast : ∀ a, (make a).ast = a) (hwarnings : ∀ a, (make a).warnings = v.warnings) :
    v.Decides id (v.accepted.map make) := by
  cases hvalid : v.isValid with
  | true =>
      obtain ⟨a, ha⟩ := h.exists_ast hvalid
      rw [accepted_of_isValid hvalid ha]
      refine ⟨⟨fun _ => hvalid, fun _ => ⟨make a, rfl⟩⟩, ?_, nofun⟩
      intro r hr
      injection hr with hr
      subst hr
      exact ⟨ha.trans (congrArg some (hast a).symm), (hwarnings a).symm⟩
  | false =>
      rw [accepted_of_not_isValid hvalid]
      refine ⟨⟨nofun, fun htrue => ?_⟩, nofun, ?_⟩
      · rw [hvalid] at htrue
        cases htrue
      · intro f hf
        injection hf with hf
        exact ⟨hf.symm, h.errors_ne_nil hvalid, h.level⟩

/-- The errors may be wrapped once more. -/
theorem Decides.mapError {ε ε' : Type} {wrap : List Diagnostic → ε} {result : Except ε Rule}
    (h : v.Decides wrap result) (g : ε → ε') : v.Decides (g ∘ wrap) (result.mapError g) := by
  cases result with
  | ok r =>
      refine ⟨⟨fun _ => h.exists_ok_iff.mp ⟨r, rfl⟩, fun _ => ⟨r, rfl⟩⟩, ?_, nofun⟩
      intro r' hr
      injection hr with hr
      subst hr
      exact h.of_ok r rfl
  | error f =>
      obtain ⟨rfl, hne, hlevel⟩ := h.of_error f rfl
      refine ⟨⟨nofun, fun hvalid => ?_⟩, nofun, ?_⟩
      · obtain ⟨r, hr⟩ := h.exists_ok_iff.mpr hvalid
        cases hr
      · intro f' hf
        injection hf with hf
        exact ⟨hf.symm, hne, hlevel⟩

end Verdict

/-- A text that is refused has an error. -/
theorem Verdict.isSettled_refused {d : Diagnostic} (hd : d.level = .error) :
    (refused d).IsSettled where
  exists_ast hvalid := by
    have herrors : (refused d).errors = [d] := List.filter_cons_of_pos (decide_eq_true hd)
    rw [isValid, herrors] at hvalid
    cases hvalid
  errors_ne_nil hvalid hnil := by
    rw [isValid, hnil] at hvalid
    cases hvalid
  level _ := level_of_mem_errors_ofDiagnostics

/-! ## Texts -/

/-- On every way out of checking, the diagnostics are parted by their level. -/
theorem exists_check_eq_ofDiagnostics (l : Limits) (source : String) :
    ∃ ds ast, check l source = .ofDiagnostics ds ast := by
  unfold check
  dsimp only
  split
  · exact ⟨_, _, rfl⟩
  · rw [checkTokens_still]
    dsimp only
    split
    · split
      · exact ⟨_, _, rfl⟩
      · exact ⟨_, _, rfl⟩
    · split
      · exact ⟨_, _, rfl⟩
      · exact ⟨_, _, rfl⟩

theorem isSettled_check_still (l : Limits) (source : String) : (check l source).IsSettled where
  exists_ast hvalid := by
    obtain ⟨-, -, a, -, hast, -⟩ := exists_gives_of_check hvalid
    exact ⟨a, hast⟩
  errors_ne_nil hvalid hnil := by
    rw [Verdict.isValid, hnil] at hvalid
    cases hvalid
  level d hd := by
    obtain ⟨ds, ast, hcheck⟩ := exists_check_eq_ofDiagnostics l source
    rw [hcheck] at hd
    exact Verdict.level_of_mem_errors_ofDiagnostics hd

/-- A verdict is settled, whenever the time is found to be used up. -/
theorem isSettled_check (l : Limits) (source : String) (clock : Clock) :
    (check l source clock).IsSettled := by
  rcases check_eq_or_timesOut l source clock with heq | ⟨suggestion, htimed⟩
  · rw [heq]
    exact isSettled_check_still l source
  · rw [htimed]
    exact Verdict.isSettled_refused rfl

/-! ## Rules -/

theorem decides_compile (l : Limits) (newId : String) (d : Definition) (clock : Clock) :
    (check l d.expression clock).Decides id (d.compile l newId clock) :=
  (isSettled_check l d.expression clock).decides_accepted (fun _ => rfl) (fun _ => rfl)

namespace Engine

/-- What is stored is the rule that adding a definition results in, if it does. -/
theorem store_add (e : Engine) (d : Definition) (clock : Clock) :
    (∀ r, (e.add d clock).1 = .ok r → (e.add d clock).2.store = e.store.insert r) ∧
      ∀ f, (e.add d clock).1 = .error f → (e.add d clock).2.store = e.store := by
  cases h : (e.compileDefinition d clock).1 with
  | ok r =>
      rw [add_of_ok h]
      refine ⟨fun r' hr => ?_, nofun⟩
      injection hr with hr
      subst hr
      rfl
  | error f =>
      rw [add_of_error h]
      exact ⟨nofun, fun _ _ => rfl⟩

/-- Checking and compiling agree, under all limits and whenever the time to read is used
up.  A valid text has an expression, and one that is not valid has an error.  A
definition, a text alone, and a definition that is to be stored have a rule exactly if
their text is valid; it has the expression and the remarks that checking yields, and it
is the one that is stored.  Else they have the errors that checking yields, at least one
and all of level error, and nothing is stored. -/
theorem check_decides_compile (e : Engine) (clock : Clock) :
    (∀ source, (e.check source clock).IsSettled) ∧
      (∀ (newId : String) (d : Definition),
        (e.check d.expression clock).Decides id (d.compile e.limits newId clock)) ∧
      (∀ source, (e.check source clock).Decides id (e.compile source clock).1) ∧
      ∀ d, (e.check d.expression clock).Decides (.compilation (e.ids.resolve d.id).1)
          (e.add d clock).1 ∧
        (∀ r, (e.add d clock).1 = .ok r → (e.add d clock).2.store = e.store.insert r) ∧
        ∀ f, (e.add d clock).1 = .error f → (e.add d clock).2.store = e.store := by
  refine ⟨fun source => isSettled_check e.limits source clock,
    fun newId d => decides_compile e.limits newId d clock, fun source => ?_, fun d => ?_⟩
  · exact decides_compile e.limits _ { name := e.ids.take.1, expression := source } clock
  · refine ⟨?_, store_add e d clock⟩
    rw [fst_add]
    exact (decides_compile e.limits _ d clock).mapError _

end Engine

/-- The time may be used up in front of the second check of a rule. -/
example : (check {} "trace.has(a) and trace.has(b)" fun look =>
    if look = .check 6 then 100 else 0).errors.map (·.message) =
      ["Rule parsing timed out after 100ms"] := by
  decide +kernel

end TraceCheck
