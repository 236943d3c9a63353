import Dataflow.Proofs.Plan.Compile
import Dataflow.Proofs.Run.Progress
/-!
What a run computes, read off the graph.

A workflow says what each node receives: a source the input of its name, any other node the outputs of the nodes
that its connections come from. The registry says what a node makes of that. Together they relate the outputs of all
nodes to each other with no word about an order (`Registry.Yields`). The main statement is that the outputs of a run
are related in this way, and the point to prove is that a step never comes too early: by the time it takes its values
the nodes it takes from have their outputs, and later steps do not change them.
-/

set_option autoImplicit false

namespace Dataflow

/-! ## What nodes receive and yield -/

/-- The values that a node receives: the input of a source, or else the outputs of the nodes that the connections
come from, oldest connection first. All of these outputs exist. -/
def Workflow.Receives (w : Workflow) (inputs outputs : Dict Value) (v : Node) (values : List Value) : Prop :=
  if v.role = .source then values = (inputs.get? (v.config.textD "name" v.id)).toList
  else (w.inbound v.id).map (fun c => outputs.get? c.origin) = values.map some

/-- What the handler of a node makes of the values that the node receives. -/
def Registry.Yields (r : Registry) (w : Workflow) (inputs outputs : Dict Value) (v : Node)
    (result : Except HandlerError Value) : Prop :=
  ∃ kind h values, r.resolve? v.kind = some (kind, h) ∧ w.Receives inputs outputs v values ∧
    (h.invoke values v.config).result = result

/-- All outputs of nodes that there are, few or many, are what their nodes yield. -/
def Registry.Consistent (r : Registry) (w : Workflow) (inputs outputs : Dict Value) : Prop :=
  ∀ v ∈ w.nodes, ∀ x, outputs.get? v.id = some x → r.Yields w inputs outputs v (.ok x)

section
variable {w : Workflow} {inputs outputs : Dict Value} {v : Node}

/-- A node receives one list of values. -/
theorem Workflow.Receives.unique {values values' : List Value} (h : w.Receives inputs outputs v values)
    (h' : w.Receives inputs outputs v values') : values = values' := by
  rw [Receives] at h h'
  split_ifs at h h'
  · rw [h, h']
  · exact List.map_injective_iff.2 (Option.some_injective Value) (h.symm.trans h')

/-- What a node receives depends on the outputs of the nodes that feed it, and not on others. -/
theorem Workflow.Receives.congr {outputs' : Dict Value} {values : List Value}
    (h : w.Receives inputs outputs v values)
    (hsame : ∀ c ∈ w.inbound v.id, outputs'.get? c.origin = outputs.get? c.origin) :
    w.Receives inputs outputs' v values := by
  rw [Receives] at h ⊢
  split_ifs at h ⊢
  · exact h
  · rw [List.map_congr_left hsame]
    exact h

/-- Of a node that is no source, every origin has an output where the node receives its values. -/
theorem Workflow.Receives.exists_output {values : List Value} (h : w.Receives inputs outputs v values)
    (hrole : v.role ≠ .source) {c : Connection} (hc : c ∈ w.inbound v.id) :
    ∃ x, outputs.get? c.origin = some x := by
  rw [Receives, if_neg hrole] at h
  have hmem : outputs.get? c.origin ∈ values.map some := h ▸ List.mem_map_of_mem hc
  obtain ⟨x, -, hx⟩ := List.mem_map.1 hmem
  exact ⟨x, hx.symm⟩

/-- Where no node that feeds `v` has two outputs to offer, `v` receives one list of values from two sides. -/
theorem Workflow.Receives.agree {outputs' : Dict Value} {values values' : List Value}
    (h : w.Receives inputs outputs v values) (h' : w.Receives inputs outputs' v values')
    (hagree : ∀ c ∈ w.inbound v.id, ∀ x x', outputs.get? c.origin = some x → outputs'.get? c.origin = some x' →
      x = x') : values = values' := by
  by_cases hrole : v.role = .source
  · rw [Receives, if_pos hrole] at h h'
    rw [h, h']
  · refine (h.congr fun c hc => ?_).unique h'
    obtain ⟨x, hx⟩ := h.exists_output hrole hc
    obtain ⟨x', hx'⟩ := h'.exists_output hrole hc
    rw [hx, hx', hagree c hc x x' hx hx']

/-- A node yields one result, if the outputs that it may take from two sides do not differ. -/
theorem Registry.Yields.agree {r : Registry} {outputs' : Dict Value} {result result' : Except HandlerError Value}
    (h : r.Yields w inputs outputs v result) (h' : r.Yields w inputs outputs' v result')
    (hagree : ∀ c ∈ w.inbound v.id, ∀ x x', outputs.get? c.origin = some x → outputs'.get? c.origin = some x' →
      x = x') : result = result' := by
  obtain ⟨kind, handler, values, hkind, hvalues, rfl⟩ := h
  obtain ⟨kind', handler', values', hkind', hvalues', rfl⟩ := h'
  obtain ⟨-, rfl⟩ := Prod.mk.inj (Option.some.inj (hkind.symm.trans hkind'))
  rw [hvalues.agree hvalues' hagree]

end

/-! ## Steps -/

section
variable {w : Workflow} {inputs outputs : Dict Value}

/-- Where the outputs exist that a step takes, it gathers what its node receives. -/
theorem Step.Describes.receives {s : Step} {v : Node} (hs : s.Describes w v)
    (hsource : s.role = .source → s.inbound = []) (hout : ∀ id ∈ s.inbound, ∃ x, outputs.get? id = some x) :
    w.Receives inputs outputs v (s.gather inputs outputs) := by
  rw [Workflow.Receives, ← hs.role]
  by_cases hrole : s.role = .source
  · rw [if_pos hrole, Step.gather, if_pos ⟨hrole, hsource hrole⟩, hs.config, hs.nodeId]
  · rw [if_neg hrole, Step.gather, if_neg fun h => hrole h.1, List.map_map]
    have hmap : (w.inbound v.id).map (fun c => outputs.get? c.origin) = s.inbound.map outputs.get? := by
      rw [hs.inbound, List.map_map]
      rfl
    rw [hmap]
    refine List.map_congr_left fun id hid => ?_
    obtain ⟨x, hx⟩ := hout id hid
    simp [hx]

/-- An output that a step does not take does not change what it gathers. -/
theorem Step.gather_insert {s : Step} {id : String} {x : Value} (hid : id ∉ s.inbound) :
    s.gather inputs (outputs.insert id x) = s.gather inputs outputs := by
  rw [gather, gather]
  split_ifs
  · rfl
  · refine List.map_congr_left fun id' hid' => ?_
    have hne : id' ≠ id := fun h => hid (h ▸ hid')
    rw [Dict.get?_insert, if_neg hne]

end

/-! ## Plans -/

namespace Registry.Faithful

variable {r : Registry} {w : Workflow} {p : Plan} {inputs : Dict Value} {c : Cancellation} {q : Progress}
  {s : Step} {rest : List Step}

/-- In a faithful plan every step is done by the handler that the registry has for its node. -/
theorem invoke (hp : r.Faithful w p) (hs : s ∈ p.steps) : ∃ v ∈ w.nodes, s.Describes w v ∧
    ∃ h, r.resolve? v.kind = some (s.handlerKind, h) ∧ p.handler? s = some h ∧
      ∀ values, p.invoke s values = h.invoke values v.config := by
  obtain ⟨v, hv, hdescribes, h, hkind, hhandler⟩ := hp.steps s hs
  refine ⟨v, hv, hdescribes, h, hkind, hhandler, fun values => ?_⟩
  rw [Plan.invoke, hhandler, hdescribes.config]

/-- Every node has a step. -/
theorem exists_step (hp : r.Faithful w p) (hw : w.DistinctIds) {v : Node} (hv : v ∈ w.nodes) :
    ∃ s ∈ p.steps, s.Describes w v := by
  have hid : v.id ∈ p.order := hp.perm.mem_iff.2 (Workflow.id_mem_ids hv)
  obtain ⟨s, hs, hsid⟩ := List.mem_map.1 hid
  obtain ⟨v', hv', hdescribes, -⟩ := hp.steps s hs
  rw [hw.eq_of_id_eq hv hv' (hsid.symm.trans hdescribes.nodeId)]
  exact ⟨s, hs, hdescribes⟩

/-- What the next step takes has been put out. -/
theorem exists_output (hp : r.Faithful w p) (hq : p.Reaches inputs c q) (hnext : q.remaining = s :: rest) :
    ∀ id ∈ s.inbound, ∃ x, q.outputs.get? id = some x := by
  intro id hid
  exact (hq.output_iff id).2 (hp.earlier _ _ _ (hq.steps_eq_cons hnext) id hid)

/-- The next step gathers what its node receives. -/
theorem receives (hp : r.Faithful w p) (hq : p.Reaches inputs c q) (hnext : q.remaining = s :: rest) {v : Node}
    (hs : s.Describes w v) : w.Receives inputs q.outputs v (s.gather inputs q.outputs) :=
  hs.receives (hp.source s (hq.mem_steps hnext)) (hp.exists_output hq hnext)

/-- The next step has not been completed before. -/
theorem nodeId_not_mem_completed (hp : r.Faithful w p) (hw : w.DistinctIds) (hq : p.Reaches inputs c q)
    (hnext : q.remaining = s :: rest) : s.nodeId ∉ q.completed.map (·.nodeId) := by
  have hnodup : p.order.Nodup := hp.perm.nodup_iff.2 hw
  rw [Plan.order, hq.steps_eq_cons hnext, List.map_append, List.map_cons] at hnodup
  exact fun hmem => (List.nodup_append.1 hnodup).2.2 _ hmem _ (List.mem_cons_self ..) rfl

/-- What a completed step has taken was put out before it. -/
theorem inbound_subset_completed (hp : r.Faithful w p) (hq : p.Reaches inputs c q) {t : Step}
    (ht : t ∈ q.completed) : ∀ id ∈ t.inbound, id ∈ q.completed.map (·.nodeId) := by
  intro id hid
  obtain ⟨front, back, hsplit⟩ := List.append_of_mem ht
  have hsteps : p.steps = front ++ t :: (back ++ q.remaining) := by simp [hq.steps_eq, hsplit]
  rw [hsplit, List.map_append]
  exact List.mem_append_left _ (hp.earlier _ _ _ hsteps id hid)

/-- **A completed step stays completed.** Its output is what its handler makes of the outputs that there are now,
however many steps have completed since. -/
theorem completed (hp : r.Faithful w p) (hw : w.DistinctIds) (hq : p.Reaches inputs c q) :
    ∀ s ∈ q.completed, ∃ x, q.outputs.get? s.nodeId = some x ∧
      (p.invoke s (s.gather inputs q.outputs)).result = .ok x := by
  induction hq with
  | refl => simp [Plan.start]
  | tail hreach hcompletes ih =>
    cases hcompletes with
    | @step completed rest t outputs log x hhost hx =>
      have hq : p.Reaches inputs c ⟨completed, t :: rest, outputs, log, false⟩ := hreach
      -- `t` is new: no completed step has its id or takes from it, so its output changes nothing for them.
      have hnew : t.nodeId ∉ completed.map (·.nodeId) := hp.nodeId_not_mem_completed hw hq rfl
      intro s hs
      rcases List.mem_append.1 hs with hs | hs
      · obtain ⟨y, hy, hresult⟩ := ih s hs
        have hne : s.nodeId ≠ t.nodeId := fun h => hnew (h ▸ List.mem_map_of_mem hs)
        have huntaken : t.nodeId ∉ s.inbound := fun hmem => hnew (hp.inbound_subset_completed hq hs _ hmem)
        refine ⟨y, ?_, ?_⟩
        · rw [Dict.get?_insert, if_neg hne]
          exact hy
        · rw [Step.gather_insert huntaken]
          exact hresult
      · obtain rfl := List.mem_singleton.1 hs
        have huntaken : s.nodeId ∉ s.inbound := fun hmem =>
          hnew (hp.earlier _ _ _ (hq.steps_eq_cons rfl) _ hmem)
        refine ⟨x, by rw [Dict.get?_insert, if_pos rfl], ?_⟩
        rw [Step.gather_insert huntaken]
        exact hx

/-- An output is what its node yields. -/
theorem yields_of_output (hp : r.Faithful w p) (hw : w.DistinctIds) (hq : p.Reaches inputs c q) {v : Node}
    (hv : v ∈ w.nodes) {x : Value} (hx : q.outputs.get? v.id = some x) :
    r.Yields w inputs q.outputs v (.ok x) := by
  obtain ⟨s, hs, hsid⟩ := List.mem_map.1 ((hq.output_iff v.id).1 ⟨x, hx⟩)
  have hmem : s ∈ p.steps := by
    rw [hq.steps_eq]
    exact List.mem_append_left _ hs
  obtain ⟨v', hv', hdescribes, h, hkind, -, hinvoke⟩ := hp.invoke hmem
  obtain rfl : v' = v := hw.eq_of_id_eq hv' hv (hdescribes.nodeId.symm.trans hsid)
  obtain ⟨y, hy, hresult⟩ := hp.completed hw hq s hs
  obtain rfl : y = x := by
    rw [hsid, hx] at hy
    exact (Option.some.inj hy).symm
  have hout (id : String) (hid : id ∈ s.inbound) : ∃ z, q.outputs.get? id = some z :=
    (hq.output_iff id).2 (hp.inbound_subset_completed hq hs id hid)
  refine ⟨s.handlerKind, h, _, hkind, hdescribes.receives (hp.source s hmem) hout, ?_⟩
  rw [← hinvoke, hresult]

/-- A step that its handler fails is a node that yields the error. -/
theorem yields_of_stops (hp : r.Faithful w p) (hq : p.Reaches inputs c q) {error : HandlerError}
    (hstops : p.Stops inputs c q s (.handler error)) :
    ∃ v ∈ w.nodes, s.Describes w v ∧ r.Yields w inputs q.outputs v (.error error) := by
  obtain ⟨rest, hnext⟩ := hstops.next
  obtain ⟨v, hv, hdescribes, h, hkind, -, hinvoke⟩ := hp.invoke (hq.mem_steps hnext)
  refine ⟨v, hv, hdescribes, s.handlerKind, h, _, hkind, hp.receives hq hnext hdescribes, ?_⟩
  cases hstops with
  | handler _ _ herror => rw [← hinvoke, herror]

end Registry.Faithful

/-! ## Runs -/

namespace Registry.Faithful

variable {r : Registry} {w : Workflow} {p : Plan}

/-- However a run ends, its outputs are what their nodes yield. -/
theorem run_consistent (hp : r.Faithful w p) (hw : w.DistinctIds) (inputs : Dict Value) (c : Cancellation) :
    r.Consistent w inputs (p.run inputs c).outputs := by
  obtain ⟨q, hq, houtputs⟩ := p.run_outputs inputs c
  rw [houtputs]
  exact fun v hv x hx => hp.yields_of_output hw hq hv hx

/-- Only nodes have outputs. -/
theorem mem_ids_of_output (hp : r.Faithful w p) {inputs : Dict Value} {c : Cancellation} {id : String} {x : Value}
    (hx : (p.run inputs c).outputs.get? id = some x) : id ∈ w.ids := by
  obtain ⟨q, hq, houtputs⟩ := p.run_outputs inputs c
  refine hp.perm.mem_iff.1 ?_
  rw [Plan.order, hq.steps_eq, List.map_append]
  exact List.mem_append_left _ ((hq.output_iff id).1 ⟨x, houtputs ▸ hx⟩)

/-- A run that nobody asked to end has failed because some node yields an error. -/
theorem yields_of_failure (hp : r.Faithful w p) {inputs : Dict Value} {c : Cancellation} {failure : RunFailure}
    (hfailure : (p.run inputs c).failure = some failure) : failure.cause = .cancelled ∨
      ∃ v ∈ w.nodes, v.id = failure.nodeId ∧ ∃ error, failure.cause = .handler error ∧
        r.Yields w inputs (p.run inputs c).outputs v (.error error) := by
  obtain ⟨q, hq, ⟨-, hrun⟩ | ⟨s, cause, hstops, hrun⟩⟩ := p.run_reaches inputs c
  · rw [hrun] at hfailure
    simp at hfailure
  · obtain rfl : ⟨s.nodeId, s.kind, cause⟩ = failure := by simpa [hrun] using hfailure
    rw [hrun]
    cases cause with
    | cancelled => exact .inl rfl
    | handler error =>
      obtain ⟨v, hv, hdescribes, hyields⟩ := hp.yields_of_stops hq hstops
      exact .inr ⟨v, hv, hdescribes.nodeId.symm, error, rfl, hyields⟩

/-- A run that comes to its end has an output of every node, and collects from them. -/
theorem run_of_succeeded (hp : r.Faithful w p) {inputs : Dict Value} {c : Cancellation}
    (hrun : (p.run inputs c).succeeded = true) :
    (p.run inputs c).collected = p.collect (p.run inputs c).outputs ∧
      ∀ id ∈ w.ids, ∃ x, (p.run inputs c).outputs.get? id = some x := by
  obtain ⟨q, hq, ⟨hremaining, hresult⟩ | ⟨s, cause, -, hresult⟩⟩ := p.run_reaches inputs c
  · rw [hresult]
    refine ⟨rfl, fun id hid => (hq.output_iff id).2 ?_⟩
    have horder : q.completed.map (·.nodeId) = p.order := by
      rw [Plan.order, hq.steps_eq, hremaining, List.append_nil]
    rw [horder]
    exact hp.perm.mem_iff.2 hid
  · rw [hresult] at hrun
    cases hrun

/-- A run in which no request counts comes to its end unless some node yields an error. -/
theorem succeeded_of_not_yields_error (hp : r.Faithful w p) {inputs : Dict Value}
    (hall : ∀ v ∈ w.nodes, ∀ error, ¬ r.Yields w inputs (p.run inputs .ignored).outputs v (.error error)) :
    (p.run inputs .ignored).succeeded = true := by
  obtain ⟨q, hq, ⟨-, hrun⟩ | ⟨s, cause, hstops, hrun⟩⟩ := p.run_reaches inputs .ignored
  · rw [hrun]
    rfl
  · cases hstops with
    | cancelled hnext hasked =>
      rw [hq.asked_eq_false] at hasked
      cases hasked
    | handler hnext hgo herror =>
      obtain ⟨v, hv, -, hyields⟩ := hp.yields_of_stops hq (.handler hnext hgo herror)
      rw [hrun] at hall
      exact absurd hyields (hall v hv _)

/-- What is collected from outputs is those of the sinks. -/
theorem collect_get?_eq_some_iff (hp : r.Faithful w p) (hw : w.DistinctIds) {outputs : Dict Value} {id : String}
    {x : Value} : (p.collect outputs).get? id = some x ↔
      (∃ v ∈ w.nodes, v.id = id ∧ v.role = .sink) ∧ outputs.get? id = some x := by
  have hsink : (∃ s ∈ p.steps, s.role = .sink ∧ s.nodeId = id) ↔ ∃ v ∈ w.nodes, v.id = id ∧ v.role = .sink := by
    constructor
    · rintro ⟨s, hs, hrole, rfl⟩
      obtain ⟨v, hv, hdescribes, -⟩ := hp.steps s hs
      exact ⟨v, hv, hdescribes.nodeId.symm, hdescribes.role ▸ hrole⟩
    · rintro ⟨v, hv, rfl, hrole⟩
      obtain ⟨s, hs, hdescribes⟩ := hp.exists_step hw hv
      exact ⟨s, hs, hdescribes.role ▸ hrole, hdescribes.nodeId⟩
  rw [← hsink]
  exact Plan.get?_collect_eq_some_iff

end Registry.Faithful

namespace Registry

/-- **A run computes the dataflow of the graph.** In every run of a plan that a workflow has, however the run ends,
an output is what the handler of its node makes of the outputs of the nodes that feed the node. A step that starts
finds all the values it takes, as many as there are connections into its node, and its handler, which accepts that
many. So if a step fails without a request to cancel, it is its handler that has failed. -/
theorem run_yields {r : Registry} {w : Workflow} {p : Plan} (hp : r.compile w = .ok p) (inputs : Dict Value)
    (c : Cancellation) :
    (∀ v ∈ w.nodes, ∀ x, (p.run inputs c).output? v.id = some x →
      r.Yields w inputs (p.run inputs c).outputs v (.ok x)) ∧
    (∀ q s rest, p.Reaches inputs c q → q.remaining = s :: rest → ∃ v ∈ w.nodes, s.Describes w v ∧
      ∃ h, r.resolve? v.kind = some (s.handlerKind, h) ∧ p.handler? s = some h ∧
        (v.role ≠ .source → (∀ id ∈ s.inbound, (q.outputs.get? id).isSome) ∧
          (s.gather inputs q.outputs).length = (w.inbound v.id).length ∧
          h.arity.accepts (s.gather inputs q.outputs).length = true)) ∧
    ∀ failure, (p.run inputs c).failure = some failure → failure.cause = .cancelled ∨
      ∃ v ∈ w.nodes, v.id = failure.nodeId ∧ ∃ error, failure.cause = .handler error ∧
        r.Yields w inputs (p.run inputs c).outputs v (.error error) := by
  have hfaithful := faithful_of_compile hp
  obtain ⟨hsound, -, haccepts⟩ := compile_isOk_iff.1 ⟨p, hp⟩
  refine ⟨hfaithful.run_consistent hsound.distinctIds inputs c, fun q s rest hq hnext => ?_,
    fun failure hfailure => hfaithful.yields_of_failure hfailure⟩
  obtain ⟨v, hv, hdescribes, h, hkind, hhandler, -⟩ := hfaithful.invoke (hq.mem_steps hnext)
  refine ⟨v, hv, hdescribes, h, hkind, hhandler, fun hrole => ?_⟩
  have hlength : (s.gather inputs q.outputs).length = (w.inbound v.id).length := by
    rw [Step.gather, if_neg fun hsource => hrole (hdescribes.role ▸ hsource.1), List.length_map,
      hdescribes.inbound, List.length_map]
  obtain ⟨kind, h', hkind', harity, -⟩ := haccepts v hv
  obtain ⟨-, rfl⟩ := Prod.mk.inj (Option.some.inj (hkind.symm.trans hkind'))
  refine ⟨fun id hid => Option.isSome_iff_exists.2 (hfaithful.exists_output hq hnext id hid), hlength, ?_⟩
  rw [hlength]
  exact harity

/-- In the confluence, the values are joined in the order of the connections, and the input of a source is found
under its id. -/
theorem run_confluence : ∃ p, builtin.compile .confluence = .ok p ∧
    ∀ v ∈ Workflow.confluence.nodes, v.id = "both" →
      builtin.Yields .confluence (.ofList [("a", .text "A")]) (p.run (.ofList [("a", .text "A")]) .ignored).outputs v
        (.ok (.text "B\nA")) := by
  have hrun : (builtin.compile .confluence).map
      (fun p => (p.run (.ofList [("a", .text "A")]) .ignored).output? "both") = .ok (some (.text "B\nA")) := by cbv
  obtain ⟨p, hp, houtput⟩ := exists_plan_of_map_eq_ok hrun
  refine ⟨p, hp, fun v hv hid => ?_⟩
  refine (run_yields hp (.ofList [("a", .text "A")]) .ignored).1 v hv (.text "B\nA") ?_
  rw [hid]
  exact houtput

end Registry

end Dataflow
