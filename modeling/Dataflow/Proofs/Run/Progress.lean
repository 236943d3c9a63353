import Dataflow.Run
import Mathlib.Logic.Relation
/-!
Runs as a machine that goes from step to step.

The run of a plan is a recursion over its steps, which hides the moment at which a step takes its values. Here a
run between two steps is a state of its own (`Progress`), the completion of a step leads from one state to the next
(`Plan.Completes`), and what keeps a step from completing is said beside it (`Plan.Stops`). A run is then a chain of
completions that ends with the plan or at a step that stops, and its result is what the last state holds
(`Plan.run_reaches`). Whatever every completion keeps holds of every state that a run reaches.
-/

set_option autoImplicit false

namespace Dataflow

/-! ## States -/

/-- A run between two steps. -/
structure Progress where
  completed : List Step
  remaining : List Step
  outputs : Dict Value
  log : List TraceEntry
  /-- Whether a handler has asked for the end and is heeded. -/
  asked : Bool

namespace Plan

/-- The run of a plan before its first step. -/
def start (p : Plan) : Progress := ⟨[], p.steps, .empty, [], false⟩

/-- The next step completes with an output. -/
inductive Completes (p : Plan) (inputs : Dict Value) (c : Cancellation) : Progress → Progress → Prop where
  | step {completed rest : List Step} {s : Step} {outputs : Dict Value} {log : List TraceEntry} {v : Value}
      (hhost : c.byHost completed.length = false)
      (hv : (p.invoke s (s.gather inputs outputs)).result = .ok v) :
    Completes p inputs c ⟨completed, s :: rest, outputs, log, false⟩
      ⟨completed ++ [s], rest, outputs.insert s.nodeId v,
        log ++ [⟨completed.length, s.nodeId, s.kind, .completed (summary v), 0⟩],
        c.byHandlers && (p.invoke s (s.gather inputs outputs)).cancels⟩

/-- The next step does not complete, for a reason. -/
inductive Stops (p : Plan) (inputs : Dict Value) (c : Cancellation) : Progress → Step → RunError → Prop where
  | cancelled {q : Progress} {s : Step} {rest : List Step} (hnext : q.remaining = s :: rest)
      (hasked : (q.asked || c.byHost q.completed.length) = true) : Stops p inputs c q s .cancelled
  | handler {q : Progress} {s : Step} {rest : List Step} {error : HandlerError} (hnext : q.remaining = s :: rest)
      (hgo : (q.asked || c.byHost q.completed.length) = false)
      (herror : (p.invoke s (s.gather inputs q.outputs)).result = .error error) :
    Stops p inputs c q s (.handler error)

/-- The states that the run of a plan goes through. -/
def Reaches (p : Plan) (inputs : Dict Value) (c : Cancellation) (q : Progress) : Prop :=
  Relation.ReflTransGen (p.Completes inputs c) p.start q

variable {p : Plan} {inputs : Dict Value} {c : Cancellation}

theorem Stops.next {q : Progress} {s : Step} {cause : RunError} (h : p.Stops inputs c q s cause) :
    ∃ rest, q.remaining = s :: rest := by
  cases h with
  | cancelled hnext => exact ⟨_, hnext⟩
  | handler hnext => exact ⟨_, hnext⟩

/-! ## Results -/

section
variable {index : Nat} {asked : Bool} {outputs : Dict Value} {s : Step} {rest : List Step}

theorem runSteps_cons_of_cancelled (h : (asked || c.byHost index) = true) :
    p.runSteps inputs c index asked outputs (s :: rest) =
      ⟨outputs, [⟨index, s.nodeId, s.kind, .failed RunError.cancelled.message, 0⟩],
        some ⟨s.nodeId, s.kind, .cancelled⟩⟩ := by
  rw [runSteps, if_pos h]

theorem runSteps_cons_of_error {error : HandlerError} (hgo : (asked || c.byHost index) = false)
    (h : (p.invoke s (s.gather inputs outputs)).result = .error error) :
    p.runSteps inputs c index asked outputs (s :: rest) =
      ⟨outputs, [⟨index, s.nodeId, s.kind, .failed (RunError.handler error).message, 0⟩],
        some ⟨s.nodeId, s.kind, .handler error⟩⟩ := by
  rw [runSteps, if_neg (by simp [hgo])]
  simp only [h]

theorem runSteps_cons_of_ok {v : Value} (hgo : (asked || c.byHost index) = false)
    (h : (p.invoke s (s.gather inputs outputs)).result = .ok v) :
    p.runSteps inputs c index asked outputs (s :: rest) =
      let trail := p.runSteps inputs c (index + 1)
        (c.byHandlers && (p.invoke s (s.gather inputs outputs)).cancels) (outputs.insert s.nodeId v) rest
      ⟨trail.outputs, ⟨index, s.nodeId, s.kind, .completed (summary v), 0⟩ :: trail.log, trail.failure⟩ := by
  rw [runSteps, if_neg (by simp [hgo])]
  simp only [h]

end

/-- The rest of a run from any state, as a chain of completions and its end. -/
theorem runSteps_reaches (p : Plan) (inputs : Dict Value) (c : Cancellation) (q : Progress) :
    ∃ q', Relation.ReflTransGen (p.Completes inputs c) q q' ∧
      ∃ trail, p.runSteps inputs c q.completed.length q.asked q.outputs q.remaining = trail ∧
        trail.outputs = q'.outputs ∧
        ((q'.remaining = [] ∧ trail.failure = none ∧ q.log ++ trail.log = q'.log) ∨
          ∃ s cause, p.Stops inputs c q' s cause ∧ trail.failure = some ⟨s.nodeId, s.kind, cause⟩ ∧
            q.log ++ trail.log
              = q'.log ++ [⟨q'.completed.length, s.nodeId, s.kind, .failed cause.message, 0⟩]) := by
  obtain ⟨completed, remaining, outputs, log, asked⟩ := q
  -- On the steps that remain. The index of the next one is the number of those completed.
  induction remaining generalizing completed outputs log asked with
  | nil => exact ⟨_, .refl, _, rfl, rfl, .inl ⟨rfl, rfl, by simp [runSteps]⟩⟩
  | cons s rest ih =>
    by_cases hstop : (asked || c.byHost completed.length) = true
    · exact ⟨_, .refl, _, runSteps_cons_of_cancelled hstop, rfl,
        .inr ⟨s, .cancelled, .cancelled rfl hstop, rfl, rfl⟩⟩
    have hgo : (asked || c.byHost completed.length) = false := by simpa using hstop
    cases hresult : (p.invoke s (s.gather inputs outputs)).result with
    | error error =>
      exact ⟨_, .refl, _, runSteps_cons_of_error hgo hresult, rfl,
        .inr ⟨s, .handler error, .handler rfl hgo hresult, rfl, rfl⟩⟩
    | ok v =>
      obtain ⟨rfl, hhost⟩ : asked = false ∧ c.byHost completed.length = false := by simpa using hgo
      have hcompletes : p.Completes inputs c ⟨completed, s :: rest, outputs, log, false⟩
          ⟨completed ++ [s], rest, outputs.insert s.nodeId v,
            log ++ [⟨completed.length, s.nodeId, s.kind, .completed (summary v), 0⟩],
            c.byHandlers && (p.invoke s (s.gather inputs outputs)).cancels⟩ := .step hhost hresult
      obtain ⟨q', hmoves, trail, htrail, houtputs, hend⟩ := ih (completed ++ [s]) (outputs.insert s.nodeId v)
        (log ++ [⟨completed.length, s.nodeId, s.kind, .completed (summary v), 0⟩])
        (c.byHandlers && (p.invoke s (s.gather inputs outputs)).cancels)
      simp only [List.length_append, List.length_singleton] at htrail
      refine ⟨q', .head hcompletes hmoves, _, runSteps_cons_of_ok hgo hresult, ?_⟩
      simp only [htrail]
      refine ⟨houtputs, ?_⟩
      simpa using hend

/-- **The result of a run is what its last state holds.** Either the plan is at its end, or a step stops. -/
theorem run_reaches (p : Plan) (inputs : Dict Value) (c : Cancellation) :
    ∃ q, p.Reaches inputs c q ∧
      ((q.remaining = [] ∧ p.run inputs c = ⟨q.outputs, p.collect q.outputs, q.log, .succeeded, none, 0⟩) ∨
        ∃ s cause, p.Stops inputs c q s cause ∧
          p.run inputs c = ⟨q.outputs, .empty,
            q.log ++ [⟨q.completed.length, s.nodeId, s.kind, .failed cause.message, 0⟩], .failed,
            some ⟨s.nodeId, s.kind, cause⟩, 0⟩) := by
  obtain ⟨q, hreach, trail, htrail, houtputs, hend⟩ := runSteps_reaches p inputs c p.start
  refine ⟨q, hreach, ?_⟩
  have hrun : p.runSteps inputs c 0 false .empty p.steps = trail := htrail
  rcases hend with ⟨hremaining, hfailure, hlog⟩ | ⟨s, cause, hstops, hfailure, hlog⟩
  · refine .inl ⟨hremaining, ?_⟩
    have hlog : trail.log = q.log := hlog
    simp only [run, hrun, hfailure, houtputs, hlog]
  · refine .inr ⟨s, cause, hstops, ?_⟩
    have hlog : trail.log = q.log ++ [⟨q.completed.length, s.nodeId, s.kind, .failed cause.message, 0⟩] := hlog
    simp only [run, hrun, hfailure, houtputs, hlog]

/-- The outputs of a run, however it ends, are those of a state that it reaches. -/
theorem run_outputs (p : Plan) (inputs : Dict Value) (c : Cancellation) :
    ∃ q, p.Reaches inputs c q ∧ (p.run inputs c).outputs = q.outputs := by
  obtain ⟨q, hq, hrun⟩ := p.run_reaches inputs c
  refine ⟨q, hq, ?_⟩
  rcases hrun with ⟨-, hrun⟩ | ⟨s, cause, -, hrun⟩
  · rw [hrun]
  · rw [hrun]

/-- What is collected from outputs is those of the sinks among the steps. -/
theorem get?_collect_eq_some_iff {outputs : Dict Value} {id : String} {v : Value} :
    (p.collect outputs).get? id = some v ↔
      (∃ s ∈ p.steps, s.role = .sink ∧ s.nodeId = id) ∧ outputs.get? id = some v := by
  have hmem {id' : String} {v' : Value} :
      (id', v') ∈ (p.steps.filter (·.role == .sink)).filterMap
          (fun s => (outputs.get? s.nodeId).map (s.nodeId, ·)) ↔
        (∃ s ∈ p.steps, s.role = .sink ∧ s.nodeId = id') ∧ outputs.get? id' = some v' := by
    simp only [List.mem_filterMap, List.mem_filter, beq_iff_eq, Option.map_eq_some_iff, Prod.mk.injEq]
    constructor
    · rintro ⟨s, ⟨hs, hrole⟩, y, hy, rfl, rfl⟩
      exact ⟨⟨s, hs, hrole, rfl⟩, hy⟩
    · rintro ⟨⟨s, hs, hrole, rfl⟩, hv⟩
      exact ⟨s, ⟨hs, hrole⟩, v', hv, rfl, rfl⟩
  rw [← hmem]
  refine ⟨Dict.mem_of_get?_ofList, fun h => Dict.get?_ofList_of_mem h fun y hy => ?_⟩
  exact Option.some.inj ((hmem.1 hy).2.symm.trans (hmem.1 h).2)

/-! ## Invariants -/

/-- What the first state holds and every completion keeps, every state of a run holds. -/
theorem Reaches.invariant {P : Progress → Prop} {q : Progress} (h : p.Reaches inputs c q) (hstart : P p.start)
    (hstep : ∀ {q q'}, P q → p.Completes inputs c q q' → P q') : P q := by
  induction h with
  | refl => exact hstart
  | tail _ hcompletes ih => exact hstep ih hcompletes

/-- The steps of a plan are those completed, and then those that remain. -/
theorem Reaches.steps_eq {q : Progress} (h : p.Reaches inputs c q) : p.steps = q.completed ++ q.remaining := by
  refine h.invariant (P := fun q => p.steps = q.completed ++ q.remaining) rfl fun hq hcompletes => ?_
  cases hcompletes with
  | step => rw [hq, List.append_assoc, List.singleton_append]

theorem Reaches.steps_eq_cons {q : Progress} (h : p.Reaches inputs c q) {s : Step} {rest : List Step}
    (hnext : q.remaining = s :: rest) : p.steps = q.completed ++ s :: rest := by
  rw [h.steps_eq, hnext]

theorem Reaches.mem_steps {q : Progress} (h : p.Reaches inputs c q) {s : Step} {rest : List Step}
    (hnext : q.remaining = s :: rest) : s ∈ p.steps := by
  rw [h.steps_eq_cons hnext]
  exact List.mem_append_right _ (List.mem_cons_self ..)

/-- There are outputs for the completed steps and for no others. -/
theorem Reaches.output_iff {q : Progress} (h : p.Reaches inputs c q) (id : String) :
    (∃ v, q.outputs.get? id = some v) ↔ id ∈ q.completed.map (·.nodeId) := by
  refine h.invariant (P := fun q => (∃ v, q.outputs.get? id = some v) ↔ id ∈ q.completed.map (·.nodeId))
    (by simp [start]) fun hq hcompletes => ?_
  cases hcompletes with
  | @step completed rest s outputs log v =>
    rw [Dict.get?_insert, List.map_append, List.mem_append, ← hq]
    by_cases hid : id = s.nodeId
    · simp [hid]
    · simp [hid]

/-- Where no request counts, none stands. -/
theorem Reaches.asked_eq_false {q : Progress} (h : p.Reaches inputs .ignored q) : q.asked = false := by
  refine h.invariant (P := fun q => q.asked = false) rfl fun _ hcompletes => ?_
  cases hcompletes with
  | step => rfl

end Plan

end Dataflow
