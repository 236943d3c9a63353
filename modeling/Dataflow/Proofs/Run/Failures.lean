import Dataflow.Proofs.Handler.Failures
import Dataflow.Proofs.Run.Dataflow
/-!
How runs fail.

A plan is made only where every handler accepts the settings of its node, so a step of a plan fails as its handler
fails with settings that it accepts. This carries over to runs: a run that fails, and that the host does not end, has
met an error of the sort that the handler of some step reports (`Registry.FailsOnly.run_failure`). For the built-in
kinds all that is left is a value of the wrong type in front of a text operation
(`Registry.failures_are_mismatches`).
-/

set_option autoImplicit false

namespace Dataflow

namespace Registry

namespace FailsOnly

variable {r : Registry} {sort : String → HandlerError → Prop} {w : Workflow} {p : Plan} {inputs : Dict Value}
  {c : Cancellation}

/-- The settings of a step have been checked, by the handler that is invoked with them. -/
theorem invoke (hr : r.FailsOnly sort) (hp : r.compile w = .ok p) {s : Step} (hs : s ∈ p.steps)
    (values : List Value) : (p.invoke s values).cancels = false ∧
      ∀ error, (p.invoke s values).result = .error error → sort s.handlerKind error := by
  obtain ⟨v, hv, -, h, hkind, -, hinvoke⟩ := (faithful_of_compile hp).invoke hs
  obtain ⟨-, -, haccepts⟩ := compile_isOk_iff.1 ⟨p, hp⟩
  obtain ⟨kind, h', hkind', -, hvalid⟩ := haccepts v hv
  obtain ⟨rfl, rfl⟩ := Prod.mk.inj (Option.some.inj (hkind.symm.trans hkind'))
  rw [hinvoke]
  exact hr s.handlerKind h (handlers_get?_of_resolve? hkind) v.config hvalid values

/-- No handler asks for the end of a run. -/
theorem asked_eq_false (hr : r.FailsOnly sort) (hp : r.compile w = .ok p) {q : Progress}
    (hq : p.Reaches inputs c q) : q.asked = false := by
  induction hq with
  | refl => rfl
  | tail hreach hcompletes _ =>
    cases hcompletes with
    | @step completed rest s outputs log v hhost hv =>
      have hq : p.Reaches inputs c ⟨completed, s :: rest, outputs, log, false⟩ := hreach
      obtain ⟨hcancels, -⟩ := hr.invoke hp (hq.mem_steps rfl) (s.gather inputs outputs)
      show (c.byHandlers && (p.invoke s (s.gather inputs outputs)).cancels) = false
      rw [hcancels, Bool.and_false]

/-- **Why a run fails.** Either the host has asked for the end, or the handler of some step reports an error of its
sort. -/
theorem run_failure (hr : r.FailsOnly sort) (hp : r.compile w = .ok p) (inputs : Dict Value) (c : Cancellation) :
    (p.run inputs c).status = .succeeded ∨ ∃ s ∈ p.steps, ∃ cause,
      (p.run inputs c).failure = some ⟨s.nodeId, s.kind, cause⟩ ∧
        ((cause = .cancelled ∧ ∃ index, c.byHost index = true) ∨
          ∃ error, cause = .handler error ∧ sort s.handlerKind error) := by
  obtain ⟨q, hq, ⟨-, hrun⟩ | ⟨s, cause, hstops, hrun⟩⟩ := p.run_reaches inputs c
  · left
    rw [hrun]
  · right
    obtain ⟨rest, hnext⟩ := hstops.next
    have hs : s ∈ p.steps := hq.mem_steps hnext
    refine ⟨s, hs, cause, by rw [hrun], ?_⟩
    cases hstops with
    | cancelled _ hasked =>
      rw [hr.asked_eq_false hp hq, Bool.false_or] at hasked
      exact .inl ⟨rfl, _, hasked⟩
    | @handler _ error _ _ herror =>
      obtain ⟨-, hsort⟩ := hr.invoke hp hs (s.gather inputs q.outputs)
      exact .inr ⟨error, rfl, hsort error herror⟩

end FailsOnly

/-- **What the checks of a plan leave to its runs.** No handler of the built-in kinds complains of settings that it
has accepted; where the prompt does, the error is the service's own. And whatever plan is made with the built-in
kinds, as they are or with the service that answers with the prompt, a run of it that the host does not end succeeds
or fails by a mismatch, at a step that applies an operation to texts. -/
theorem failures_are_mismatches :
    (∀ (service : CompletionService) (kind : String) (h : Handler),
      (builtin.withService service).handlers.get? kind = some h → ∀ config, h.validate config = .ok () →
        ∀ inbound message, (h.invoke inbound config).result = .error (.invalidConfig message) →
          kind = invokeModelKind ∧ ∃ request, service request = .error (.invalidConfig message)) ∧
    ∀ r : Registry, r.Standard →
      (∀ kind h, r.handlers.get? kind = some h → ∀ config, h.validate config = .ok () →
        ∀ inbound message, (h.invoke inbound config).result ≠ .error (.invalidConfig message)) ∧
      ∀ (w : Workflow) (p : Plan), r.compile w = .ok p → ∀ (inputs : Dict Value) (c : Cancellation),
        (∀ index, c.byHost index = false) →
          (p.run inputs c).status = .succeeded ∨ ∃ s ∈ p.steps, s.handlerKind ∈ textKinds ∧
            ∃ operation expected found, (p.run inputs c).failure =
              some ⟨s.nodeId, s.kind, .handler (.typeMismatch operation expected found)⟩ := by
  refine ⟨?prompt, fun r hr => ⟨?settings, ?runs⟩⟩
  case prompt =>
    intro service kind h hget config hvalid inbound message hresult
    obtain ⟨-, herror⟩ := withService_failsOnly service kind h hget config hvalid inbound
    rcases herror _ hresult with ⟨-, operation, expected, found, hmismatch⟩ | hservice
    · cases hmismatch
    · exact hservice
  case settings =>
    intro kind h hget config hvalid inbound message hresult
    obtain ⟨-, herror⟩ := hr.failsOnly kind h hget config hvalid inbound
    obtain ⟨-, operation, expected, found, hmismatch⟩ := herror _ hresult
    cases hmismatch
  case runs =>
    intro w p hp inputs c hhost
    rcases hr.failsOnly.run_failure hp inputs c with hsucceeded | ⟨s, hs, cause, hfailure, hcause⟩
    · exact .inl hsucceeded
    · right
      rcases hcause with ⟨-, index, hasked⟩ | ⟨error, rfl, hkind, operation, expected, found, rfl⟩
      · rw [hhost index] at hasked
        cases hasked
      · exact ⟨s, hs, hkind, operation, expected, found, hfailure⟩

end Registry

/-- An input without the blanks around it. -/
def Workflow.tidy : Workflow :=
  .ofParts "tidy" [⟨"word", .source, "input", .empty⟩, ⟨"bare", .transform, "trim", .empty⟩,
      ⟨"out", .sink, "output", .empty⟩]
    [⟨"1", "word", "bare"⟩, ⟨"2", "bare", "out"⟩]

/-- An input that is no text passes all checks, and the run on it fails by a mismatch. -/
theorem Registry.failures_are_mismatches_tidy : ∃ p, builtin.compile .tidy = .ok p ∧
    ∃ s ∈ p.steps, s.handlerKind ∈ textKinds ∧ ∃ operation expected found,
      (p.run (.ofList [("word", .bool true)]) .ignored).failure =
        some ⟨s.nodeId, s.kind, .handler (.typeMismatch operation expected found)⟩ := by
  have hplan : (builtin.compile .tidy).map (fun p => (p.steps, p.steps.map fun s => (p.invoke s [.bool true]).result)) =
      .ok ([⟨"word", .source, "input", "constant-input", [], .empty⟩,
          ⟨"bare", .transform, "trim", "trim", ["word"], .empty⟩,
          ⟨"out", .sink, "output", "collect-output", ["bare"], .empty⟩],
        [.ok (.bool true), .error (.typeMismatch "trim" "text or list of text" (.bool true)), .ok (.bool true)]) := by
    cbv
  obtain ⟨p, hp, hplan⟩ := exists_plan_of_map_eq_ok hplan
  rw [Prod.mk.injEq] at hplan
  obtain ⟨hsteps, hresults⟩ := hplan
  simp only [hsteps, List.map_cons, List.cons.injEq] at hresults
  obtain ⟨hword, hbare, -⟩ := hresults
  have hfailed : (p.run (.ofList [("word", .bool true)]) .ignored).status = .failed := by
    unfold Plan.run
    rw [hsteps, Plan.runSteps_cons_of_ok rfl hword, Plan.runSteps_cons_of_error rfl hbare]
  refine ⟨p, hp, ?_⟩
  rcases (failures_are_mismatches.2 builtin .plain).2 .tidy p hp (.ofList [("word", .bool true)]) .ignored
    (fun _ => rfl) with hsucceeded | hstep
  · rw [hfailed] at hsucceeded
    cases hsucceeded
  · exact hstep

end Dataflow
