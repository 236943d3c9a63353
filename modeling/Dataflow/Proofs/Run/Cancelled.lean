import Dataflow.Proofs.Run.Coherent
import Mathlib.Control.Monad.Writer
/-!
Runs that are cancelled from within.

A handler may ask for the end of the run that it takes part in. That it did so shows in its reply and not in the
result, so a run is written here as a program that invokes handlers one after the other (`Plan.stepsIn`), which can be
run with a record of all invocations beside the result. The main statement is that where the request of a handler
counts, it cuts the run short behind the step that made it and changes nothing before that: results and invocations up
to there are those of the run in which no request counts (`Registry.run_cancelled`).
-/

set_option autoImplicit false

namespace Dataflow

namespace Plan

/-! ## Invocations -/

/-- The steps of a run from an index on, as a program that invokes handlers. -/
def stepsIn {m : Type → Type} [Monad m] (invoke : Nat → Step → List Value → m Reply) (inputs : Dict Value)
    (c : Cancellation) (index : Nat) (asked : Bool) (outputs : Dict Value) : List Step → m Trail
  | [] => pure ⟨outputs, [], none⟩
  | s :: rest =>
    let stop (cause : RunError) : Trail :=
      ⟨outputs, [failedLine index s cause], some ⟨s.nodeId, s.kind, cause⟩⟩
    if asked || c.byHost index then pure (stop .cancelled)
    else do
      let reply ← invoke index s (s.gather inputs outputs)
      match reply.result with
      | .error error => pure (stop (.handler error))
      | .ok v =>
        let trail ← stepsIn invoke inputs c (index + 1) (c.byHandlers && reply.cancels)
          (outputs.insert s.nodeId v) rest
        pure { trail with log := ⟨index, s.nodeId, s.kind, .completed (summary v), 0⟩ :: trail.log }

/-- An invocation of a handler, with its reply. -/
structure Call where
  index : Nat
  step : Step
  inbound : List Value
  reply : Reply

/-- The invocation of the handler of a step, with what there is when it is its turn. -/
def call (p : Plan) (inputs : Dict Value) (index : Nat) (outputs : Dict Value) (s : Step) : Call :=
  ⟨index, s, s.gather inputs outputs, p.invoke s (s.gather inputs outputs)⟩

/-- Invokes the handler of a step, and records that it did. -/
def invokeRecorded (p : Plan) (index : Nat) (s : Step) (inbound : List Value) : Writer (List Call) Reply :=
  WriterT.mk (p.invoke s inbound, [⟨index, s, inbound, p.invoke s inbound⟩])

/-- The steps of a run from an index on, with all invocations. -/
def recordSteps (p : Plan) (inputs : Dict Value) (c : Cancellation) (index : Nat) (asked : Bool)
    (outputs : Dict Value) (steps : List Step) : Trail × List Call :=
  (stepsIn p.invokeRecorded inputs c index asked outputs steps).run

/-- The run of a plan with all invocations. -/
def recorded (p : Plan) (inputs : Dict Value) (c : Cancellation) : RunResult × List Call :=
  (p.recordSteps inputs c 0 false .empty p.steps).map p.result id

variable {p : Plan} {inputs : Dict Value} {c : Cancellation}

section
variable {index : Nat} {asked : Bool} {outputs : Dict Value} {s : Step} {rest : List Step}

/-- A program that invokes a handler goes on with the reply, and the invocation stands in front of those that follow. -/
theorem run_invokeRecorded_bind {α : Type} (inbound : List Value) (f : Reply → Writer (List Call) α) :
    (p.invokeRecorded index s inbound >>= f).run = ((f (p.invoke s inbound)).run.1,
      ⟨index, s, inbound, p.invoke s inbound⟩ :: (f (p.invoke s inbound)).run.2) := rfl

/-- What a program does with its value in the end invokes nothing. -/
theorem run_bind_pure {α β : Type} (x : Writer (List Call) α) (f : α → β) :
    (x >>= fun a => pure (f a)).run = (f x.run.1, x.run.2) :=
  congrArg (Prod.mk (f x.run.1)) (List.append_nil x.run.2)

theorem recordSteps_cons_of_cancelled (h : (asked || c.byHost index) = true) :
    p.recordSteps inputs c index asked outputs (s :: rest) =
      (⟨outputs, [failedLine index s .cancelled], some ⟨s.nodeId, s.kind, .cancelled⟩⟩, []) := by
  rw [recordSteps, stepsIn, if_pos h]
  rfl

theorem recordSteps_cons_of_error {error : HandlerError} (hgo : (asked || c.byHost index) = false)
    (h : (p.invoke s (s.gather inputs outputs)).result = .error error) :
    p.recordSteps inputs c index asked outputs (s :: rest) =
      (⟨outputs, [failedLine index s (.handler error)], some ⟨s.nodeId, s.kind, .handler error⟩⟩,
        [p.call inputs index outputs s]) := by
  rw [recordSteps, stepsIn, if_neg (by simp [hgo]), run_invokeRecorded_bind]
  simp only [h]
  rfl

theorem recordSteps_cons_of_ok {v : Value} (hgo : (asked || c.byHost index) = false)
    (h : (p.invoke s (s.gather inputs outputs)).result = .ok v) :
    p.recordSteps inputs c index asked outputs (s :: rest) =
      let t := p.recordSteps inputs c (index + 1) (c.byHandlers && (p.invoke s (s.gather inputs outputs)).cancels)
        (outputs.insert s.nodeId v) rest
      (⟨t.1.outputs, ⟨index, s.nodeId, s.kind, .completed (summary v), 0⟩ :: t.1.log, t.1.failure⟩,
        p.call inputs index outputs s :: t.2) := by
  rw [recordSteps, stepsIn, if_neg (by simp [hgo]), run_invokeRecorded_bind]
  simp only [h, run_bind_pure]
  rfl

/-- What becomes of the next step: the run ends before it, or its handler fails or completes. -/
theorem turn_cases (p : Plan) (inputs : Dict Value) (c : Cancellation) (index : Nat) (asked : Bool)
    (outputs : Dict Value) (s : Step) :
    (asked || c.byHost index) = true ∨ (asked || c.byHost index) = false ∧
      ((∃ error, (p.invoke s (s.gather inputs outputs)).result = .error error) ∨
        ∃ v, (p.invoke s (s.gather inputs outputs)).result = .ok v) := by
  cases hasked : asked || c.byHost index with
  | true => exact .inl rfl
  | false =>
    cases (p.invoke s (s.gather inputs outputs)).result with
    | error error => exact .inr ⟨rfl, .inl ⟨error, rfl⟩⟩
    | ok v => exact .inr ⟨rfl, .inr ⟨v, rfl⟩⟩

/-- Beside the record a run is what it is without. -/
theorem recordSteps_fst (steps : List Step) :
    (p.recordSteps inputs c index asked outputs steps).1 = p.runSteps inputs c index asked outputs steps := by
  induction steps generalizing index asked outputs with
  | nil => rfl
  | cons s rest ih =>
    rcases p.turn_cases inputs c index asked outputs s with hstop | ⟨hgo, ⟨error, herror⟩ | ⟨v, hv⟩⟩
    · rw [recordSteps_cons_of_cancelled hstop, runSteps_cons_of_cancelled hstop]
      rfl
    · rw [recordSteps_cons_of_error hgo herror, runSteps_cons_of_error hgo herror]
      rfl
    · rw [recordSteps_cons_of_ok hgo hv, runSteps_cons_of_ok hgo hv, ← ih]

/-- The steps from an index on are invoked in their order, each once at most, and reply what their handlers do. -/
theorem recordSteps_call {steps : List Step} {i : Nat} {d : Call}
    (hd : (p.recordSteps inputs c index asked outputs steps).2[i]? = some d) :
    steps[i]? = some d.step ∧ d.index = index + i ∧ d.reply = p.invoke d.step d.inbound := by
  -- On the steps that remain. Every step that is taken makes one invocation, in front of all later ones.
  induction steps generalizing index asked outputs i with
  | nil => cases hd
  | cons s rest ih =>
    rcases p.turn_cases inputs c index asked outputs s with hstop | ⟨hgo, ⟨error, herror⟩ | ⟨v, hv⟩⟩
    · rw [recordSteps_cons_of_cancelled hstop] at hd
      cases hd
    · rw [recordSteps_cons_of_error hgo herror] at hd
      cases i with
      | zero =>
        obtain rfl := Option.some.inj hd
        exact ⟨rfl, rfl, rfl⟩
      | succ i => cases hd
    · rw [recordSteps_cons_of_ok hgo hv] at hd
      cases i with
      | zero =>
        obtain rfl := Option.some.inj hd
        exact ⟨rfl, rfl, rfl⟩
      | succ i =>
        obtain ⟨hstep, hindex, hreply⟩ := ih hd
        exact ⟨hstep, by omega, hreply⟩

/-- What has been put out stays as it is, where no later step is for the same node. -/
theorem get?_runSteps {steps : List Step} {id : String} (hid : id ∉ steps.map (·.nodeId)) :
    (p.runSteps inputs c index asked outputs steps).outputs.get? id = outputs.get? id := by
  induction steps generalizing index asked outputs with
  | nil => rfl
  | cons s rest ih =>
    rw [List.map_cons, List.mem_cons, not_or] at hid
    rcases p.turn_cases inputs c index asked outputs s with hstop | ⟨hgo, ⟨error, herror⟩ | ⟨v, hv⟩⟩
    · rw [runSteps_cons_of_cancelled hstop]
    · rw [runSteps_cons_of_error hgo herror]
    · rw [runSteps_cons_of_ok hgo hv]
      exact (ih hid.2).trans ((Dict.get?_insert ..).trans (if_neg hid.1))

end

/-! ## Up to a request -/

/-- A step in front of others that goes through. -/
theorem completedLines_cons (index : Nat) (s : Step) (v : Value) (more : List (Step × Value)) :
    completedLines index ((s, v) :: more) =
      ⟨index, s.nodeId, s.kind, .completed (summary v), 0⟩ :: completedLines (index + 1) more := by
  rw [completedLines, List.zipIdx_cons, List.map_cons, completedLines]

/-- Runs that no host ends go alike up to the first handler that asks for the end. Behind it they go on from the
same outputs, with the request or without it. -/
theorem recordSteps_split {k : Nat} {d : Call} {v : Value} {done : List (Step × Value)} {steps : List Step}
    (hd : (p.recordSteps inputs .ignored done.length false (outputsOf done) steps).2[k]? = some d)
    (hv : d.reply.result = .ok v)
    (hfirst : ∀ j e, j < k → (p.recordSteps inputs .ignored done.length false (outputsOf done) steps).2[j]? = some e →
      e.reply.cancels = false) :
    ∃ more back calls, steps = more.map (·.1) ++ back ∧ more.length = k + 1 ∧ calls.length = k + 1 ∧
      ∀ c : Cancellation, (∀ i, c.byHost i = false) →
        p.recordSteps inputs c done.length false (outputsOf done) steps =
          let t := p.recordSteps inputs c (done.length + (k + 1)) (c.byHandlers && d.reply.cancels)
            (outputsOf (done ++ more)) back
          (⟨t.1.outputs, completedLines done.length more ++ t.1.log, t.1.failure⟩, calls ++ t.2) := by
  -- A step before the request completes and does not ask, so all runs go on from it alike, whoever is listened to.
  induction steps generalizing k done with
  | nil => cases hd
  | cons s rest ih =>
    have hgo (c : Cancellation) (hhost : ∀ i, c.byHost i = false) : (false || c.byHost done.length) = false := by
      rw [Bool.false_or, hhost]
    cases hresult : (p.invoke s (s.gather inputs (outputsOf done))).result with
    | error error =>
      rw [recordSteps_cons_of_error rfl hresult] at hd
      cases k with
      | zero =>
        obtain rfl := Option.some.inj hd
        cases hresult.symm.trans hv
      | succ k => cases hd
    | ok u =>
      have hcons (c : Cancellation) (hhost : ∀ i, c.byHost i = false) :
          p.recordSteps inputs c done.length false (outputsOf done) (s :: rest) =
            let t := p.recordSteps inputs c (done.length + 1)
              (c.byHandlers && (p.invoke s (s.gather inputs (outputsOf done))).cancels)
              (outputsOf (done ++ [(s, u)])) rest
            (⟨t.1.outputs, ⟨done.length, s.nodeId, s.kind, .completed (summary u), 0⟩ :: t.1.log, t.1.failure⟩,
              p.call inputs done.length (outputsOf done) s :: t.2) := by
        rw [outputsOf_concat]
        exact recordSteps_cons_of_ok (hgo c hhost) hresult
      rw [hcons .ignored fun _ => rfl] at hd hfirst
      cases k with
      | zero =>
        obtain rfl := Option.some.inj hd
        exact ⟨[(s, u)], rest, [p.call inputs done.length (outputsOf done) s], rfl, rfl, rfl, hcons⟩
      | succ k =>
        have hsilent : (p.invoke s (s.gather inputs (outputsOf done))).cancels = false :=
          hfirst 0 _ (Nat.succ_pos k) rfl
        simp only [hsilent, Bool.and_false] at hcons hd hfirst
        have hlength : (done ++ [(s, u)]).length = done.length + 1 := List.length_append
        rw [← hlength] at hd hfirst
        obtain ⟨more, back, calls, rfl, hmore, hcalls, hruns⟩ :=
          ih hd fun j e hj he => hfirst (j + 1) e (Nat.succ_lt_succ hj) he
        refine ⟨(s, u) :: more, back, p.call inputs done.length (outputsOf done) s :: calls, rfl,
          congrArg Nat.succ hmore, congrArg Nat.succ hcalls, fun c hhost => ?_⟩
        have hplace : done.length + 1 + (k + 1) = done.length + (k + 1 + 1) := by omega
        rw [hcons c hhost, ← hlength, hruns c hhost, hlength, hplace, completedLines_cons, List.append_assoc,
          List.singleton_append]
        rfl

/-! ## Results -/

theorem recorded_fst (p : Plan) (inputs : Dict Value) (c : Cancellation) :
    (p.recorded inputs c).1 = p.run inputs c := by
  rw [recorded, Prod.map_fst, recordSteps_fst]
  rfl

theorem result_outputs (p : Plan) (t : Trail) : (p.result t).outputs = t.outputs := by
  rw [result]
  split <;> rfl

theorem result_log (p : Plan) (t : Trail) : (p.result t).log = t.log := by
  rw [result]
  split <;> rfl

/-- A result says that the step at an index has completed, with this output. -/
def Shows (r : RunResult) (index : Nat) (s : Step) (v : Value) : Prop :=
  r.outputs.get? s.nodeId = some v ∧
    r.log[index]? = some ⟨index, s.nodeId, s.kind, .completed (summary v), 0⟩

/-- A result that begins with the lines of some steps, and has kept their outputs, shows that they have completed. -/
theorem shows_of_completedLines {done : List (Step × Value)} {r : RunResult} {tail : List TraceEntry}
    (hnodup : (done.map (·.1.nodeId)).Nodup) (hlog : r.log = completedLines 0 done ++ tail)
    (houtputs : ∀ x ∈ done, r.outputs.get? x.1.nodeId = (outputsOf done).get? x.1.nodeId) {i : Nat} {s : Step}
    {v : Value} (hi : done[i]? = some (s, v)) : Shows r i s v := by
  have hmem : (s, v) ∈ done := List.mem_of_getElem? hi
  refine ⟨(houtputs _ hmem).trans (get?_outputsOf hnodup hmem), ?_⟩
  have hlt : i < (completedLines 0 done).length := by
    rw [completedLines_length]
    exact (List.getElem?_eq_some_iff.1 hi).1
  rw [hlog, List.getElem?_append_left hlt, getElem?_completedLines, hi, Option.map_some]

/-- What a run comes to that ends behind the step at an index because this asked for it, beside the whole run. -/
structure CutAfter (p : Plan) (k : Nat) (whole cut : RunResult) : Prop where
  lt : k < p.steps.length
  /-- Up to the step that asked, nothing differs. -/
  same : ∀ (i : Nat) (s : Step), i ≤ k → p.steps[i]? = some s → ∃ v, Shows cut i s v ∧ Shows whole i s v
  /-- A request of the last step comes too late. -/
  last : p.steps.length = k + 1 → cut = whole ∧ cut.status = .succeeded
  /-- Any other is met before the next step. -/
  early : ∀ s, p.steps[k + 1]? = some s → cut.status = .failed ∧
    cut.failure = some ⟨s.nodeId, s.kind, .cancelled⟩ ∧ cut.log.length = k + 2 ∧
    cut.log[k + 1]? = some (failedLine (k + 1) s .cancelled) ∧ cut.collected = .empty ∧
    ∀ id, (cut.outputs.get? id).isSome = true ↔ id ∈ (p.steps.take (k + 1)).map (·.nodeId)

/-- The step at `k` completes, and its handler is the first to ask for the end, in the run in which nobody listens. -/
def FirstRequest (p : Plan) (inputs : Dict Value) (k : Nat) : Prop :=
  ∃ d v, (p.recorded inputs .ignored).2[k]? = some d ∧ d.reply.result = .ok v ∧ d.reply.cancels = true ∧
    ∀ j e, j < k → (p.recorded inputs .ignored).2[j]? = some e → e.reply.cancels = false

/-- What all runs that no host ends have in common up to the step at `k`: the steps that completed with what they put
out, those that remain, and the invocations. Behind the step only those go on whose handlers are not listened to. -/
structure Split (p : Plan) (inputs : Dict Value) (k : Nat) (done : List (Step × Value)) (back : List Step)
    (calls : List Call) : Prop where
  steps : p.steps = done.map (·.1) ++ back
  length : done.length = k + 1
  calls_length : calls.length = k + 1
  recorded : ∀ c : Cancellation, (∀ i, c.byHost i = false) →
    let t := p.recordSteps inputs c (k + 1) c.byHandlers (outputsOf done) back
    p.recorded inputs c = (p.result ⟨t.1.outputs, completedLines 0 done ++ t.1.log, t.1.failure⟩, calls ++ t.2)

theorem FirstRequest.split {k : Nat} (h : p.FirstRequest inputs k) :
    ∃ done back calls, p.Split inputs k done back calls := by
  obtain ⟨d, v, hd, hv, hasks, hfirst⟩ := h
  have hd : (p.recordSteps inputs .ignored ([] : List (Step × Value)).length false (outputsOf []) p.steps).2[k]? =
      some d := hd
  obtain ⟨done, back, calls, hsteps, hdone, hcalls, hruns⟩ := recordSteps_split hd hv hfirst
  refine ⟨done, back, calls, hsteps, hdone, hcalls, fun c hhost => ?_⟩
  have hrun := hruns c hhost
  simp only [hasks, Bool.and_true, List.length_nil, Nat.zero_add, List.nil_append] at hrun
  exact congrArg (Prod.map p.result id) hrun

namespace Split
variable {k : Nat} {done : List (Step × Value)} {back : List Step} {calls : List Call}

/-- Every such run shows the steps that have completed. -/
theorem shows (h : p.Split inputs k done back calls) (hnodup : p.order.Nodup) (hhost : ∀ i, c.byHost i = false)
    {i : Nat} {s : Step} {v : Value} (hi : done[i]? = some (s, v)) : Shows (p.run inputs c) i s v := by
  have hids : p.order = done.map (·.1.nodeId) ++ back.map (·.nodeId) := by
    rw [order, h.steps, List.map_append, List.map_map]
    rfl
  obtain ⟨hdone, -, hdisjoint⟩ := List.nodup_append.1 (hids ▸ hnodup)
  rw [← recorded_fst, h.recorded c hhost]
  refine shows_of_completedLines hdone (result_log _ _) (fun x hx => ?_) hi
  -- No later step is for the node of a completed one, so its output is still there in the end.
  have hlater : x.1.nodeId ∉ back.map (·.nodeId) := by
    intro hmem
    exact hdisjoint _ (List.mem_map_of_mem hx) _ hmem rfl
  rw [result_outputs, recordSteps_fst, get?_runSteps hlater]

/-- Behind the last step nobody looks whether there was a request. -/
theorem recorded_of_last (h : p.Split inputs k done [] calls) (hhost : ∀ i, c.byHost i = false) :
    p.recorded inputs c =
      (⟨outputsOf done, p.collect (outputsOf done), completedLines 0 done, .succeeded, none, 0⟩, calls) := by
  have hend : p.recordSteps inputs c (k + 1) c.byHandlers (outputsOf done) [] = (⟨outputsOf done, [], none⟩, []) := rfl
  rw [h.recorded c hhost, hend, List.append_nil, List.append_nil]
  rfl

/-- Before any other step a request that counts is met. -/
theorem recorded_heeded {s : Step} {rest : List Step} (h : p.Split inputs k done (s :: rest) calls) :
    p.recorded inputs .heeded = (⟨outputsOf done, .empty, completedLines 0 done ++ [failedLine (k + 1) s .cancelled],
      .failed, some ⟨s.nodeId, s.kind, .cancelled⟩, 0⟩, calls) := by
  have hstop : p.recordSteps inputs .heeded (k + 1) Cancellation.heeded.byHandlers (outputsOf done) (s :: rest) =
      (⟨outputsOf done, [failedLine (k + 1) s .cancelled], some ⟨s.nodeId, s.kind, .cancelled⟩⟩, []) :=
    recordSteps_cons_of_cancelled rfl
  rw [h.recorded .heeded fun _ => rfl, hstop, List.append_nil]
  rfl

/-- Nothing is invoked behind the step whose request counts. -/
theorem calls_heeded (h : p.Split inputs k done back calls) :
    (p.recorded inputs .heeded).2 = (p.recorded inputs .ignored).2.take (k + 1) := by
  have hheeded : (p.recorded inputs .heeded).2 = calls := by
    cases back with
    | nil => rw [h.recorded_of_last fun _ => rfl]
    | cons s rest => rw [h.recorded_heeded]
  rw [hheeded, h.recorded .ignored fun _ => rfl, List.take_left' h.calls_length]

theorem cutAfter (h : p.Split inputs k done back calls) (hnodup : p.order.Nodup) :
    p.CutAfter k (p.run inputs .ignored) (p.run inputs .heeded) where
  lt := by
    rw [h.steps, List.length_append, List.length_map, h.length]
    omega
  same i s hi hs := by
    rw [h.steps, List.getElem?_append_left (by rw [List.length_map, h.length]; omega), List.getElem?_map,
      Option.map_eq_some_iff] at hs
    obtain ⟨⟨s, v⟩, hsv, rfl⟩ := hs
    exact ⟨v, h.shows hnodup (fun _ => rfl) hsv, h.shows hnodup (fun _ => rfl) hsv⟩
  last hlast := by
    obtain rfl : back = [] := by
      rw [h.steps, List.length_append, List.length_map, h.length] at hlast
      exact List.length_eq_zero_iff.1 (by omega)
    rw [← recorded_fst, ← recorded_fst, h.recorded_of_last fun _ => rfl, h.recorded_of_last fun _ => rfl]
    exact ⟨rfl, rfl⟩
  early s hs := by
    have hdone : (done.map (·.1)).length = k + 1 := (List.length_map _).trans h.length
    have hlines : (completedLines 0 done).length = k + 1 := (completedLines_length 0).trans h.length
    rw [h.steps, List.getElem?_append_right (Nat.le_of_eq hdone), hdone, Nat.sub_self] at hs
    obtain ⟨rest, rfl⟩ := List.head?_eq_some_iff.1 (List.head?_eq_getElem?.trans hs)
    rw [← recorded_fst, h.recorded_heeded, h.steps, List.take_left' hdone, List.map_map]
    refine ⟨rfl, rfl, ?_, ?_, rfl, fun id => isSome_outputsOf_iff⟩
    · rw [List.length_append, hlines, List.length_singleton]
    · rw [List.getElem?_append_right (Nat.le_of_eq hlines), hlines, Nat.sub_self]
      rfl

end Split

end Plan

namespace Registry

/-- **Cancellation cuts a run at a step boundary and changes nothing before it.** Let the handler of the step at `k`
be the first to ask for the end in the run in which nobody listens, and let the step complete. Where handlers are
listened to, the outputs and lines up to this step are the same, the next step fails as cancelled and no further
handler is invoked; after the last step the request comes too late and the result is the same. Where the host has
asked before the run, the first step fails as cancelled, if there is one. -/
theorem run_cancelled {r : Registry} {w : Workflow} {p : Plan} (hp : r.compile w = .ok p) (inputs : Dict Value) :
    (∀ c, (p.recorded inputs c).1 = p.run inputs c ∧ ∀ (k : Nat) (d : Plan.Call),
      (p.recorded inputs c).2[k]? = some d →
        p.steps[k]? = some d.step ∧ d.index = k ∧ d.reply = p.invoke d.step d.inbound) ∧
      (∀ k, p.FirstRequest inputs k → p.CutAfter k (p.run inputs .ignored) (p.run inputs .heeded) ∧
        (p.recorded inputs .heeded).2 = (p.recorded inputs .ignored).2.take (k + 1)) ∧
      (∀ s, p.steps[0]? = some s → p.recorded inputs .atOnce =
        (⟨.empty, .empty, [Plan.failedLine 0 s .cancelled], .failed, some ⟨s.nodeId, s.kind, .cancelled⟩, 0⟩, [])) ∧
      (p.steps = [] → p.run inputs .atOnce = ⟨.empty, .empty, [], .succeeded, none, 0⟩) := by
  refine ⟨fun c => ⟨p.recorded_fst inputs c, fun k d hd => ?_⟩, fun k hk => ?_, fun s hs => ?_, fun hnone => ?_⟩
  · obtain ⟨hstep, hindex, hreply⟩ := Plan.recordSteps_call hd
    exact ⟨hstep, hindex.trans (Nat.zero_add k), hreply⟩
  · obtain ⟨done, back, calls, hsplit⟩ := hk.split
    exact ⟨hsplit.cutAfter (order_nodup_of_compile hp), hsplit.calls_heeded⟩
  · obtain ⟨rest, hsteps⟩ := List.head?_eq_some_iff.1 (List.head?_eq_getElem?.trans hs)
    rw [Plan.recorded, hsteps, Plan.recordSteps_cons_of_cancelled rfl]
    rfl
  · rw [Plan.run, hnone, Plan.runSteps]
    simp only [Plan.collect, hnone]
    rfl

end Registry

/-! ## A handler that asks for the end -/

/-- Passes its value on and asks for the end of the run. -/
def Handler.lastCall : Handler where
  arity := .exactly 1
  validate _ := .ok ()
  invoke inbound _ := ⟨.ok (firstValue inbound), true⟩

/-- A source, what asks for the end, and a sink. -/
def Workflow.interrupted : Workflow :=
  .ofParts "interrupted"
    [⟨"in", .source, "input", .empty⟩, ⟨"last", .transform, "last-call", .empty⟩, ⟨"out", .sink, "output", .empty⟩]
    [⟨"1", "in", "last"⟩, ⟨"2", "last", "out"⟩]

/-- The second step asks, and is the last that completes. -/
theorem Registry.run_cancelled_interrupted : ∃ p,
    (builtin.register "last-call" .lastCall).compile .interrupted = .ok p ∧ p.order = ["in", "last", "out"] ∧
    p.FirstRequest (.ofList [("in", .text "A")]) 1 ∧
    p.CutAfter 1 (p.run (.ofList [("in", .text "A")]) .ignored) (p.run (.ofList [("in", .text "A")]) .heeded) := by
  have hcalls : ((builtin.register "last-call" .lastCall).compile .interrupted).map (fun p => (p.order,
      (p.recorded (.ofList [("in", .text "A")]) .ignored).2.map fun d => (d.reply.result, d.reply.cancels))) =
        .ok (["in", "last", "out"], [(.ok (.text "A"), false), (.ok (.text "A"), true), (.ok (.text "A"), false)]) := by
    cbv
  obtain ⟨p, hp, h⟩ := exists_plan_of_map_eq_ok hcalls
  obtain ⟨horder, hreplies⟩ := Prod.mk.inj h
  have hreply (k : Nat) : ((p.recorded (.ofList [("in", .text "A")]) .ignored).2[k]?).map
      (fun d => (d.reply.result, d.reply.cancels)) =
        [(.ok (.text "A"), false), (.ok (.text "A"), true), (.ok (.text "A"), false)][k]? := by
    rw [← List.getElem?_map, hreplies]
  obtain ⟨d, hd, hlast⟩ := Option.map_eq_some_iff.1 (hreply 1)
  obtain ⟨hv, hasks⟩ := Prod.mk.inj hlast
  have hfirst : p.FirstRequest (.ofList [("in", .text "A")]) 1 := by
    refine ⟨d, _, hd, hv, hasks, fun j e hj he => ?_⟩
    obtain rfl := Nat.lt_one_iff.1 hj
    have hsilent := hreply 0
    rw [he] at hsilent
    exact (Prod.mk.inj (Option.some.inj hsilent)).2
  obtain ⟨-, hcut, -⟩ := run_cancelled hp (.ofList [("in", .text "A")])
  exact ⟨p, hp, horder, hfirst, (hcut 1 hfirst).1⟩

end Dataflow
