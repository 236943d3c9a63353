import Dataflow.Proofs.Plan.Compile
import Dataflow.Proofs.Run.Progress
/-!
The parts of a result agree.

A result says several times how far a run came: by its log, its outputs, its status, its failure and what it
collected. `Plan.Coherent` says in what way all of these have to agree with each other and with the steps of the
plan, and the main statement is that they do in every run (`Registry.run_coherent`).

It does not matter for this what the handlers do. So the statement is about runs in which an arbitrary function of
the place in the run stands for them (`Plan.answered`), which leaves room for handlers that remember earlier
calls; that the handlers of the plan give one of these runs is `Plan.run_eq_answered`.
-/

set_option autoImplicit false

namespace Dataflow

namespace Plan

/-! ## Runs with any answers -/

/-- The steps of a run from an index on, where a step is answered for by its index, itself and its values. -/
def answeredSteps (answer : Nat → Step → List Value → Reply) (inputs : Dict Value) (c : Cancellation) (index : Nat)
    (asked : Bool) (outputs : Dict Value) : List Step → Trail
  | [] => ⟨outputs, [], none⟩
  | s :: rest =>
    let stop (cause : RunError) : Trail :=
      ⟨outputs, [⟨index, s.nodeId, s.kind, .failed cause.message, 0⟩], some ⟨s.nodeId, s.kind, cause⟩⟩
    if asked || c.byHost index then stop .cancelled
    else
      let reply := answer index s (s.gather inputs outputs)
      match reply.result with
      | .error error => stop (.handler error)
      | .ok v =>
        let trail := answeredSteps answer inputs c (index + 1) (c.byHandlers && reply.cancels)
          (outputs.insert s.nodeId v) rest
        { trail with log := ⟨index, s.nodeId, s.kind, .completed (summary v), 0⟩ :: trail.log }

/-- What a trail comes to as the trail of all steps. -/
def result (p : Plan) (trail : Trail) : RunResult :=
  match trail.failure with
  | none => ⟨trail.outputs, p.collect trail.outputs, trail.log, .succeeded, none, 0⟩
  | some failure => ⟨trail.outputs, .empty, trail.log, .failed, some failure, 0⟩

/-- The run of a plan with any answers in place of its handlers. -/
def answered (p : Plan) (answer : Nat → Step → List Value → Reply) (inputs : Dict Value) (c : Cancellation) :
    RunResult := p.result (answeredSteps answer inputs c 0 false .empty p.steps)

variable {p : Plan} {answer : Nat → Step → List Value → Reply} {inputs : Dict Value} {c : Cancellation}

theorem runSteps_eq_answeredSteps (p : Plan) (inputs : Dict Value) (c : Cancellation) (index : Nat) (asked : Bool)
    (outputs : Dict Value) (steps : List Step) : p.runSteps inputs c index asked outputs steps =
      answeredSteps (fun _ => p.invoke) inputs c index asked outputs steps := by
  induction steps generalizing index asked outputs with
  | nil => rfl
  | cons s rest ih =>
    rw [runSteps, answeredSteps]
    split_ifs
    · rfl
    · cases hresult : (p.invoke s (s.gather inputs outputs)).result with
      | error error => simp only [hresult]
      | ok v => simp only [hresult, ih]

/-- In the run of a plan its handlers answer. -/
theorem run_eq_answered (p : Plan) (inputs : Dict Value) (c : Cancellation) :
    p.run inputs c = p.answered (fun _ => p.invoke) inputs c := by
  rw [run, runSteps_eq_answeredSteps]
  rfl

/-! ## How a run ends -/

/-- The outputs of completed steps. -/
def outputsOf (done : List (Step × Value)) : Dict Value := .ofList (done.map fun (s, v) => (s.nodeId, v))

/-- The lines of completed steps, the first of them with the given index. -/
def completedLines (index : Nat) (done : List (Step × Value)) : List TraceEntry :=
  (done.zipIdx index).map fun ((s, v), i) => ⟨i, s.nodeId, s.kind, .completed (summary v), 0⟩

/-- The line of the step that ends a run. -/
def failedLine (index : Nat) (s : Step) (cause : RunError) : TraceEntry :=
  ⟨index, s.nodeId, s.kind, .failed cause.message, 0⟩

theorem outputsOf_concat (done : List (Step × Value)) (s : Step) (v : Value) :
    outputsOf (done ++ [(s, v)]) = (outputsOf done).insert s.nodeId v := by
  rw [outputsOf, List.map_append, List.map_singleton, Dict.ofList_concat, outputsOf]

/-- How the steps of a run end, after some of them: with the last of all, or at one that fails. -/
inductive StepsEnd (done : List (Step × Value)) : List Step → Trail → Prop where
  | completed (more : List (Step × Value)) :
    StepsEnd done (more.map (·.1)) ⟨outputsOf (done ++ more), completedLines done.length more, none⟩
  | stopped (more : List (Step × Value)) (s : Step) (back : List Step) (cause : RunError) :
    StepsEnd done (more.map (·.1) ++ s :: back)
      ⟨outputsOf (done ++ more),
        completedLines done.length more ++ [failedLine (done.length + more.length) s cause],
        some ⟨s.nodeId, s.kind, cause⟩⟩

/-- A completed step in front of the others. -/
theorem StepsEnd.cons {done : List (Step × Value)} {s : Step} {v : Value} {steps : List Step} {trail : Trail}
    (h : StepsEnd (done ++ [(s, v)]) steps trail) : StepsEnd done (s :: steps)
      { trail with log := ⟨done.length, s.nodeId, s.kind, .completed (summary v), 0⟩ :: trail.log } := by
  cases h with
  | completed more =>
    -- The step was the last of those before and is now the first of those that follow.
    have h : StepsEnd done _ _ := .completed ((s, v) :: more)
    simpa [completedLines, List.zipIdx_cons] using h
  | stopped more t back cause =>
    have h : StepsEnd done _ _ := .stopped ((s, v) :: more) t back cause
    have hlength : done.length + 1 + more.length = done.length + (more.length + 1) := by omega
    simpa [completedLines, List.zipIdx_cons, hlength] using h

theorem stepsEnd_answeredSteps (done : List (Step × Value)) (asked : Bool) (steps : List Step) :
    StepsEnd done steps (answeredSteps answer inputs c done.length asked (outputsOf done) steps) := by
  -- On the steps that remain. The outputs at hand are those of the steps completed before.
  induction steps generalizing done asked with
  | nil =>
    have h : StepsEnd done _ _ := .completed []
    simpa [answeredSteps, completedLines] using h
  | cons s rest ih =>
    have hstop (cause : RunError) : StepsEnd done (s :: rest)
        ⟨outputsOf done, [failedLine done.length s cause], some ⟨s.nodeId, s.kind, cause⟩⟩ := by
      have h : StepsEnd done _ _ := .stopped [] s rest cause
      simpa [completedLines] using h
    rw [answeredSteps]
    by_cases hasked : (asked || c.byHost done.length) = true
    · rw [if_pos hasked]
      exact hstop .cancelled
    · rw [if_neg hasked]
      cases hresult : (answer done.length s (s.gather inputs (outputsOf done))).result with
      | error error =>
        simp only [hresult]
        exact hstop (.handler error)
      | ok v =>
        simp only [hresult]
        have hrest := ih (done ++ [(s, v)])
          (c.byHandlers && (answer done.length s (s.gather inputs (outputsOf done))).cancels)
        rw [List.length_append, List.length_singleton, outputsOf_concat] at hrest
        exact hrest.cons

/-- How a run ends: with the last step of the plan, or at a step that fails. -/
inductive Ends (p : Plan) : RunResult → Prop where
  | completed {done : List (Step × Value)} (hsteps : p.steps = done.map (·.1)) :
    Ends p ⟨outputsOf done, p.collect (outputsOf done), completedLines 0 done, .succeeded, none, 0⟩
  | stopped {done : List (Step × Value)} {s : Step} {back : List Step} {cause : RunError}
      (hsteps : p.steps = done.map (·.1) ++ s :: back) :
    Ends p ⟨outputsOf done, .empty, completedLines 0 done ++ [failedLine done.length s cause], .failed,
      some ⟨s.nodeId, s.kind, cause⟩, 0⟩

theorem ends_answered (p : Plan) (answer : Nat → Step → List Value → Reply) (inputs : Dict Value)
    (c : Cancellation) : p.Ends (p.answered answer inputs c) := by
  have hend : StepsEnd [] p.steps (answeredSteps answer inputs c 0 false .empty p.steps) :=
    stepsEnd_answeredSteps [] false p.steps
  rw [answered]
  generalize answeredSteps answer inputs c 0 false .empty p.steps = trail at hend
  generalize hsteps : p.steps = steps at hend
  cases hend with
  | completed more => exact .completed hsteps
  | stopped more s back cause =>
    have hends : p.Ends ⟨_, _, _, _, some ⟨_, _, cause⟩, _⟩ := .stopped hsteps
    simpa [result] using hends

/-! ## Results -/

/-- The log and the outputs of a result say that some steps of a plan, from its first one on, have completed. -/
def Records (r : RunResult) (steps : List Step) : Prop :=
  ∀ (i : Nat) (s : Step), steps[i]? = some s → ∃ v e, r.outputs.get? s.nodeId = some v ∧ r.log[i]? = some e ∧
    e.outcome = .completed (summary v)

/-- The parts of a result agree with each other and with the steps of the plan. -/
structure Coherent (p : Plan) (r : RunResult) : Prop where
  /-- Each line is about the step at its place. -/
  line : ∀ (i : Nat) (e : TraceEntry), r.log[i]? = some e →
    ∃ s, p.steps[i]? = some s ∧ e.index = i ∧ e.nodeId = s.nodeId ∧ e.kind = s.kind
  failed_iff : r.status = .failed ↔ r.failure.isSome = true
  /-- In a run that came to its end all steps have completed. -/
  succeeded : r.status = .succeeded → r.log.length = p.steps.length ∧ Records r p.steps ∧
    (∀ id, (r.outputs.get? id).isSome = true ↔ id ∈ p.order) ∧
    ∀ id v, r.collected.get? id = some v ↔
      (∃ s ∈ p.steps, s.role = .sink ∧ s.nodeId = id) ∧ r.outputs.get? id = some v
  /-- In any other the steps before the one that failed have, and nothing is collected. -/
  failed : ∀ f, r.failure = some f → ∃ front s back, p.steps = front ++ s :: back ∧ f.nodeId = s.nodeId ∧
    f.kind = s.kind ∧ r.log.length = front.length + 1 ∧ Records r front ∧
    (∃ e, r.log[front.length]? = some e ∧ e.outcome = .failed f.cause.message) ∧
    (∀ id, (r.outputs.get? id).isSome = true ↔ id ∈ front.map (·.nodeId)) ∧ r.collected = .empty
  /-- A single output is that of the only sink. -/
  single : ∀ v, r.single? = some v ↔ r.status = .succeeded ∧
    ∃ s, p.steps.filter (·.role == .sink) = [s] ∧ r.outputs.get? s.nodeId = some v

/-! ### Outputs and lines of completed steps -/

section
variable {done : List (Step × Value)}

theorem isSome_outputsOf_iff {id : String} :
    ((outputsOf done).get? id).isSome = true ↔ id ∈ done.map (·.1.nodeId) := by
  constructor
  · intro h
    obtain ⟨v, hv⟩ := Option.isSome_iff_exists.1 h
    obtain ⟨⟨s, v'⟩, hs, heq⟩ := List.mem_map.1 (Dict.mem_of_get?_ofList hv)
    exact List.mem_map.2 ⟨(s, v'), hs, (Prod.mk.inj heq).1⟩
  · intro h
    obtain ⟨⟨s, v⟩, hs, rfl⟩ := List.mem_map.1 h
    rw [outputsOf, Dict.get?_ofList, Option.isSome_iff_ne_none, ne_eq, List.lookup_eq_none_iff]
    intro hnone
    simpa using hnone (s.nodeId, v) (List.mem_reverse.2 (List.mem_map.2 ⟨(s, v), hs, rfl⟩))

/-- Where no id occurs twice, every completed step has its own output. -/
theorem get?_outputsOf (hnodup : (done.map (·.1.nodeId)).Nodup) {s : Step} {v : Value} (h : (s, v) ∈ done) :
    (outputsOf done).get? s.nodeId = some v := by
  refine Dict.get?_ofList_of_mem (List.mem_map.2 ⟨(s, v), h, rfl⟩) fun v' hv' => ?_
  obtain ⟨⟨t, v''⟩, ht, heq⟩ := List.mem_map.1 hv'
  obtain ⟨hid, rfl⟩ := Prod.mk.inj heq
  exact (Prod.mk.inj (List.inj_on_of_nodup_map hnodup ht h hid)).2

theorem completedLines_length (index : Nat) : (completedLines index done).length = done.length := by
  rw [completedLines, List.length_map, List.length_zipIdx]

theorem getElem?_completedLines (i : Nat) : (completedLines 0 done)[i]? =
    done[i]?.map fun (s, v) => ⟨i, s.nodeId, s.kind, .completed (summary v), 0⟩ := by
  rw [completedLines, List.getElem?_map, List.getElem?_zipIdx, Option.map_map]
  simp [Function.comp_def]

/-- A log that begins with the lines of completed steps, and outputs that are theirs, record these steps. -/
theorem records_of_completedLines {r : RunResult} {tail : List TraceEntry}
    (hnodup : (done.map (·.1.nodeId)).Nodup) (houtputs : r.outputs = outputsOf done)
    (hlog : r.log = completedLines 0 done ++ tail) : Records r (done.map (·.1)) := by
  intro i s hs
  rw [List.getElem?_map, Option.map_eq_some_iff] at hs
  obtain ⟨⟨s, v⟩, hsv, rfl⟩ := hs
  have hi : i < (completedLines 0 done).length := by
    rw [completedLines_length]
    exact (List.getElem?_eq_some_iff.1 hsv).1
  refine ⟨v, ⟨i, s.nodeId, s.kind, .completed (summary v), 0⟩, ?_, ?_, rfl⟩
  · rw [houtputs]
    exact get?_outputsOf hnodup (List.mem_of_getElem? hsv)
  · rw [hlog, List.getElem?_append_left hi, getElem?_completedLines, hsv, Option.map_some]

/-- The line of a completed step is about this step. -/
theorem line_of_completedLines {i : Nat} {e : TraceEntry} (h : (completedLines 0 done)[i]? = some e) :
    ∃ s, (done.map (·.1))[i]? = some s ∧ e.index = i ∧ e.nodeId = s.nodeId ∧ e.kind = s.kind := by
  rw [getElem?_completedLines, Option.map_eq_some_iff] at h
  obtain ⟨⟨s, v⟩, hsv, rfl⟩ := h
  refine ⟨s, ?_, rfl, rfl, rfl⟩
  rw [List.getElem?_map, hsv, Option.map_some]

end

/-! ### The single output -/

theorem single?_eq_some_iff {r : RunResult} {v : Value} :
    r.single? = some v ↔ ∃ id, r.collected.entries = [(id, v)] := by
  rw [RunResult.single?]
  constructor
  · intro h
    split at h
    · rename_i id v' hentries
      obtain rfl := Option.some.inj h
      exact ⟨id, hentries⟩
    · cases h
  · rintro ⟨id, hentries⟩
    rw [hentries]

/-- Where the outputs of all sinks are collected, one entry means one sink. -/
theorem exists_entry_iff (hnodup : p.order.Nodup) {r : RunResult}
    (hcollected : ∀ id v, r.collected.get? id = some v ↔
      (∃ s ∈ p.steps, s.role = .sink ∧ s.nodeId = id) ∧ r.outputs.get? id = some v)
    (hall : ∀ s ∈ p.steps, ∃ v, r.outputs.get? s.nodeId = some v) {v : Value} :
    (∃ id, r.collected.entries = [(id, v)]) ↔
      ∃ s, p.steps.filter (·.role == .sink) = [s] ∧ r.outputs.get? s.nodeId = some v := by
  have hmem {s : Step} : s ∈ p.steps.filter (·.role == .sink) ↔ s ∈ p.steps ∧ s.role = .sink := by
    rw [List.mem_filter, beq_iff_eq]
  have hsteps : p.steps.Nodup := List.Nodup.of_map _ hnodup
  -- One entry gives the sink that it is of, and one sink gives the look-ups of a dictionary with one entry.
  constructor
  · rintro ⟨id, hentries⟩
    rw [Dict.entries_eq_singleton_iff] at hentries
    have hid : r.collected.get? id = some v := by rw [hentries, if_pos rfl]
    obtain ⟨⟨s, hs, hrole, rfl⟩, hv⟩ := (hcollected id v).1 hid
    refine ⟨s, List.perm_singleton.1 ?_, hv⟩
    refine (List.perm_ext_iff_of_nodup (hsteps.filter _) (List.nodup_singleton s)).2 fun t => ?_
    rw [hmem, List.mem_singleton]
    constructor
    · rintro ⟨ht, htrole⟩
      -- The output of another sink would be collected too, and there is no other entry.
      obtain ⟨x, hx⟩ := hall t ht
      have hentry := (hcollected t.nodeId x).2 ⟨⟨t, ht, htrole, rfl⟩, hx⟩
      rw [hentries] at hentry
      by_cases hsame : t.nodeId = s.nodeId
      · exact List.inj_on_of_nodup_map hnodup ht hs hsame
      · rw [if_neg hsame] at hentry
        cases hentry
    · rintro rfl
      exact ⟨hs, hrole⟩
  · rintro ⟨s, hfilter, hv⟩
    have hs : s ∈ p.steps ∧ s.role = .sink := hmem.1 (hfilter ▸ List.mem_singleton_self s)
    refine ⟨s.nodeId, Dict.entries_eq_singleton_iff.2 fun id => ?_⟩
    by_cases hid : id = s.nodeId
    · rw [if_pos hid, hid]
      exact (hcollected s.nodeId v).2 ⟨⟨s, hs.1, hs.2, rfl⟩, hv⟩
    · rw [if_neg hid, Option.eq_none_iff_forall_not_mem]
      intro x hx
      obtain ⟨⟨t, ht, hrole, htid⟩, -⟩ := (hcollected id x).1 hx
      have hts : t ∈ p.steps.filter (·.role == .sink) := hmem.2 ⟨ht, hrole⟩
      rw [hfilter, List.mem_singleton] at hts
      exact hid (htid ▸ hts ▸ rfl)

/-! ## The main statement -/

/-- A run that came to its end is coherent. -/
theorem coherent_completed (hnodup : p.order.Nodup) {done : List (Step × Value)}
    (hsteps : p.steps = done.map (·.1)) :
    p.Coherent ⟨outputsOf done, p.collect (outputsOf done), completedLines 0 done, .succeeded, none, 0⟩ := by
  have hids : p.order = done.map (·.1.nodeId) := by
    rw [order, hsteps, List.map_map]
    rfl
  have hdone : (done.map (·.1.nodeId)).Nodup := hids ▸ hnodup
  have hall : ∀ s ∈ p.steps, ∃ v, (outputsOf done).get? s.nodeId = some v := by
    intro s hs
    refine Option.isSome_iff_exists.1 (isSome_outputsOf_iff.2 ?_)
    rw [← hids]
    exact List.mem_map_of_mem hs
  refine { line := ?_, failed_iff := ?_, succeeded := ?_, failed := ?_, single := ?_ }
  · intro i e he
    rw [hsteps]
    exact line_of_completedLines he
  · simp
  · intro _
    refine ⟨?_, ?_, ?_, fun id v => get?_collect_eq_some_iff⟩
    · rw [completedLines_length, hsteps, List.length_map]
    · rw [hsteps]
      exact records_of_completedLines hdone rfl (List.append_nil _).symm
    · intro id
      rw [hids]
      exact isSome_outputsOf_iff
  · intro f hf
    cases hf
  · intro v
    rw [single?_eq_some_iff, exists_entry_iff hnodup (fun id v => get?_collect_eq_some_iff) hall]
    exact ⟨fun h => ⟨rfl, h⟩, fun h => h.2⟩

/-- A run that a step has ended is coherent. -/
theorem coherent_stopped (hnodup : p.order.Nodup) {done : List (Step × Value)} {s : Step} {back : List Step}
    {cause : RunError} (hsteps : p.steps = done.map (·.1) ++ s :: back) :
    p.Coherent ⟨outputsOf done, .empty, completedLines 0 done ++ [failedLine done.length s cause], .failed,
      some ⟨s.nodeId, s.kind, cause⟩, 0⟩ := by
  have hids : p.order = done.map (·.1.nodeId) ++ s.nodeId :: back.map (·.nodeId) := by
    rw [order, hsteps, List.map_append, List.map_map, List.map_cons]
    rfl
  have hdone : (done.map (·.1.nodeId)).Nodup := (List.nodup_append.1 (hids ▸ hnodup)).1
  have hlength : (completedLines 0 done).length = done.length := completedLines_length 0
  have hlast : (completedLines 0 done ++ [failedLine done.length s cause])[done.length]? =
      some (failedLine done.length s cause) := by
    rw [List.getElem?_append_right (Nat.le_of_eq hlength), hlength, Nat.sub_self]
    rfl
  refine { line := ?_, failed_iff := ?_, succeeded := ?_, failed := ?_, single := ?_ }
  · intro i e he
    have he : (completedLines 0 done ++ [failedLine done.length s cause])[i]? = some e := he
    rw [hsteps]
    by_cases hi : i < done.length
    · rw [List.getElem?_append_left (by omega)] at he
      obtain ⟨t, ht, hline⟩ := line_of_completedLines he
      refine ⟨t, ?_, hline⟩
      rw [List.getElem?_append_left (by rw [List.length_map]; exact hi), ht]
    · -- Behind the completed steps there is one line only.
      obtain rfl : i = done.length := by
        have hlt := (List.getElem?_eq_some_iff.1 he).1
        rw [List.length_append, List.length_singleton] at hlt
        omega
      obtain rfl := Option.some.inj (hlast.symm.trans he)
      refine ⟨s, ?_, rfl, rfl, rfl⟩
      rw [List.getElem?_append_right (by rw [List.length_map])]
      simp
  · simp
  · intro h
    cases h
  · intro f hf
    obtain rfl := Option.some.inj hf
    refine ⟨done.map (·.1), s, back, hsteps, rfl, rfl, ?_, records_of_completedLines hdone rfl rfl, ?_, ?_, rfl⟩
    · rw [List.length_append, List.length_singleton, hlength, List.length_map]
    · refine ⟨failedLine done.length s cause, ?_, rfl⟩
      rw [List.length_map]
      exact hlast
    · intro id
      rw [List.map_map]
      exact isSome_outputsOf_iff
  · -- Nothing is collected, so neither side holds.
    intro v
    constructor
    · intro h
      obtain ⟨id, hid⟩ := single?_eq_some_iff.1 h
      cases hid
    · intro h
      cases h.1

/-- However a run ends, its result is coherent. -/
theorem Ends.coherent (hnodup : p.order.Nodup) {r : RunResult} (h : p.Ends r) : p.Coherent r := by
  cases h with
  | completed hsteps => exact coherent_completed hnodup hsteps
  | stopped hsteps => exact coherent_stopped hnodup hsteps

end Plan

namespace Registry

/-- No node has two steps in a plan. -/
theorem order_nodup_of_compile {r : Registry} {w : Workflow} {p : Plan} (hp : r.compile w = .ok p) :
    p.order.Nodup := by
  obtain ⟨hsound, -⟩ := compile_isOk_iff.1 ⟨p, hp⟩
  exact (faithful_of_compile hp).perm.nodup_iff.2 hsound.distinctIds

/-- **The result of a run is coherent.** That is so for every plan that a workflow has, all inputs and all requests
to cancel, and not only with the handlers of the plan, but whatever answers the steps get. -/
theorem run_coherent {r : Registry} {w : Workflow} {p : Plan} (hp : r.compile w = .ok p) (inputs : Dict Value)
    (c : Cancellation) : p.Coherent (p.run inputs c) ∧
      p.run inputs c = p.answered (fun _ => p.invoke) inputs c ∧
      ∀ answer, p.Coherent (p.answered answer inputs c) := by
  have hnodup := order_nodup_of_compile hp
  have hanswered (answer : Nat → Step → List Value → Reply) : p.Coherent (p.answered answer inputs c) :=
    (p.ends_answered answer inputs c).coherent hnodup
  refine ⟨?_, p.run_eq_answered inputs c, hanswered⟩
  rw [p.run_eq_answered]
  exact hanswered _

/-- In the confluence, a host that asks for the end before the third step leaves two outputs and three lines. -/
theorem run_coherent_confluence : ∃ p, builtin.compile .confluence = .ok p ∧
    (p.run (.ofList [("a", .text "A")]) ⟨(· == 2), true⟩).failure = some ⟨"both", "merge", .cancelled⟩ ∧
    p.Coherent (p.run (.ofList [("a", .text "A")]) ⟨(· == 2), true⟩) ∧
    ∀ answer, p.Coherent (p.answered answer (.ofList [("a", .text "A")]) ⟨(· == 2), true⟩) := by
  have hrun : (builtin.compile .confluence).map
      (fun p => (p.run (.ofList [("a", .text "A")]) ⟨(· == 2), true⟩).failure) =
        .ok (some ⟨"both", "merge", .cancelled⟩) := by cbv
  obtain ⟨p, hp, hfailure⟩ := exists_plan_of_map_eq_ok hrun
  obtain ⟨hcoherent, -, hanswered⟩ := run_coherent hp (.ofList [("a", .text "A")]) ⟨(· == 2), true⟩
  exact ⟨p, hp, hfailure, hcoherent, hanswered⟩

end Registry

end Dataflow
