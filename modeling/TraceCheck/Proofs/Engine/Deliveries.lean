import TraceCheck.Proofs.Engine.Failures

/-!
# Deliveries of a session

While the rules of an engine change, violations are delivered to a collector, looked at
and taken out.  What was taken and what is still held are together what was found: each
violation once, in the order of the evaluations.
-/

namespace TraceCheck

namespace Session

/-! ## Acts and their answers -/

/-- What can be done in a session: a step of it, or a look at what is held. -/
inductive Act where
  | step (step : Step)
  | look

/-- What an act returns. -/
inductive Answer where
  /-- The error in which a request ended, if it did. -/
  | requested (error? : Option EngineError)
  /-- The number of violations that were delivered. -/
  | delivered (result : Except EngineError Nat)
  | taken (vs : List Violation)
  | seen (vs : List Violation)

/-- The violations that an answer hands over. -/
def Answer.handedOver : Answer → List Violation
  | .taken vs => vs
  | _ => []

/-- The session after an act. -/
def after (s : Session) : Act → Session
  | .step step => s.perform step
  | .look => s

/-- What an act in a session returns. -/
def answer (s : Session) : Act → Answer
  | .step (.request q) => .requested (s.engine.error? q)
  | .step (.publish t) => .delivered (s.engine.publish t s.collector).1
  | .step .take => .taken s.collector.take.1
  | .look => .seen s.collector.violations

/-- What evaluating the trace of a delivery gives, where it gives something. -/
def found (s : Session) : Act → List Violation
  | .step (.publish t) => (s.engine.evaluate t).toOption.getD []
  | _ => []

/-- The session after some acts. -/
def run (s : Session) (acts : List Act) : Session :=
  acts.foldl after s

/-- What some acts return, one after the other. -/
def answers : Session → List Act → List Answer
  | _, [] => []
  | s, act :: rest => s.answer act :: (s.after act).answers rest

/-- What is found by some acts, one after the other. -/
def findings : Session → List Act → List Violation
  | _, [] => []
  | s, act :: rest => s.found act ++ (s.after act).findings rest

/-! ## Single acts -/

variable (s : Session)

/-- A delivery adds what evaluating its trace gives, and returns how much that is; where
evaluating fails, nothing is added. -/
theorem publish_cases (t : Trace) :
    (∃ vs, s.engine.evaluate t = .ok vs ∧
        s.answer (.step (.publish t)) = .delivered (.ok vs.length) ∧
        (s.after (.step (.publish t))).collector.violations = s.collector.violations ++ vs) ∨
      ∃ f, s.engine.evaluate t = .error f ∧
        s.answer (.step (.publish t)) = .delivered (.error f) ∧
        (s.after (.step (.publish t))).collector = s.collector := by
  have hanswer : s.answer (.step (.publish t)) =
      .delivered (s.engine.publish t s.collector).1 := rfl
  have hafter : (s.after (.step (.publish t))).collector =
      (s.engine.publish t s.collector).2 := rfl
  rw [hanswer, hafter, Engine.publish]
  cases s.engine.evaluate t with
  | ok vs => exact .inl ⟨vs, rfl, rfl, rfl⟩
  | error f => exact .inr ⟨f, rfl, rfl, rfl⟩

/-- An act hands over and leaves what was held before and what it found. -/
theorem handedOver_append_held (act : Act) :
    (s.answer act).handedOver ++ (s.after act).collector.violations =
      s.collector.violations ++ s.found act := by
  cases act with
  | look => exact (List.append_nil _).symm
  | step step =>
      cases step with
      | request q => exact (List.append_nil _).symm
      | take => rfl
      | publish t =>
          have hfound : s.found (.step (.publish t)) =
              (s.engine.evaluate t).toOption.getD [] := rfl
          rw [hfound]
          rcases s.publish_cases t with ⟨vs, heval, hanswer, hheld⟩ | ⟨f, heval, hanswer, hheld⟩
          · rw [heval, hanswer, hheld]
            rfl
          · rw [heval, hanswer, hheld]
            exact (List.append_nil _).symm

/-! ## Runs -/

/-- From any content of the collector on, nothing is lost and nothing is added twice. -/
theorem handedOver_append_held_run (acts : List Act) :
    (s.answers acts).flatMap Answer.handedOver ++ (s.run acts).collector.violations =
      s.collector.violations ++ s.findings acts := by
  induction acts generalizing s with
  | nil => exact (List.append_nil _).symm
  | cons act rest ih =>
      have hrest := ih (s.after act)
      have hact := s.handedOver_append_held act
      calc
        (s.answers (act :: rest)).flatMap Answer.handedOver ++
              (s.run (act :: rest)).collector.violations =
            (s.answer act).handedOver ++ (((s.after act).answers rest).flatMap
              Answer.handedOver ++ ((s.after act).run rest).collector.violations) :=
          List.append_assoc _ _ _
        _ = ((s.answer act).handedOver ++ (s.after act).collector.violations) ++
              (s.after act).findings rest := by rw [hrest, List.append_assoc]
        _ = s.collector.violations ++ s.findings (act :: rest) := by
          rw [hact, List.append_assoc]
          rfl

/-- In every run that begins with an empty collector, the violations that were taken out
and those that are held at the end are the ones that were found, in the order in which
they were found.  On the way, each delivery adds what evaluating its trace gives and
returns its number, or fails as the evaluation does and adds nothing; a look shows what
is held at that time. -/
theorem handedOver_append_held_eq_findings (e : Engine) (acts : List Act) :
    let start : Session := { engine := e }
    (start.answers acts).flatMap Answer.handedOver ++ (start.run acts).collector.violations =
        start.findings acts ∧
      ∀ before act rest, acts = before ++ act :: rest →
        let s := start.run before
        (start.answers acts)[before.length]? = some (s.answer act) ∧
          (∀ t, act = .step (.publish t) →
            (∃ vs, s.engine.evaluate t = .ok vs ∧ s.answer act = .delivered (.ok vs.length) ∧
                (s.after act).collector.violations = s.collector.violations ++ vs) ∨
              ∃ f, s.engine.evaluate t = .error f ∧ s.answer act = .delivered (.error f) ∧
                (s.after act).collector = s.collector) ∧
          (act = .look → s.answer act = .seen s.collector.violations) := by
  intro start
  refine ⟨start.handedOver_append_held_run acts, ?_⟩
  rintro before act rest rfl
  refine ⟨?_, ?_, ?_⟩
  · generalize start = s
    induction before generalizing s with
    | nil => rfl
    | cons act' before ih => exact ih (s.after act')
  · rintro t rfl
    exact publish_cases _ t
  · rintro rfl
    rfl

end Session

end TraceCheck
