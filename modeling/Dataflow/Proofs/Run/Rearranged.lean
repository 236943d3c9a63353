import Dataflow.Proofs.Run.Dataflow
import Mathlib.Data.List.Rotate
/-!
Workflows that differ in the order of their parts only.

The order of nodes and connections decides in which order the steps run, and with it which step fails first and which
outputs a failed run leaves behind. It does not decide any output: two runs that both have an output of a node have
the same one, because what a node yields depends on the nodes that feed it, and an induction along the connections
reaches them all (`Registry.Consistent.agree`). Only the order of the connections into one node counts, as that of
its values.
-/

set_option autoImplicit false

namespace Dataflow

/-! ## Rearrangements -/

/-- The same nodes and connections under the same rules, in another order. The connections into a node keep theirs. -/
structure Workflow.Rearranges (w w' : Workflow) : Prop where
  rules : w.rules = w'.rules
  nodes : w.nodes.Perm w'.nodes
  connections : w.connections.Perm w'.connections
  inbound : ∀ n ∈ w.nodes, w.inbound n.id = w'.inbound n.id

namespace Workflow.Rearranges

variable {w w' : Workflow}

theorem symm (h : w.Rearranges w') : w'.Rearranges w :=
  ⟨h.rules.symm, h.nodes.symm, h.connections.symm, fun n hn => (h.inbound n (h.nodes.mem_iff.2 hn)).symm⟩

theorem mem_ids (h : w.Rearranges w') {id : String} : id ∈ w.ids ↔ id ∈ w'.ids := (h.nodes.map _).mem_iff

theorem feeds_iff (h : w.Rearranges w') {a b : String} : w.Feeds a b ↔ w'.Feeds a b := by
  simp only [Feeds, h.mem_ids, h.connections.mem_iff]

theorem acyclic (h : w.Rearranges w') (hw : w.Acyclic) : w'.Acyclic := by
  have hfeeds : w.Feeds = w'.Feeds := by
    funext a b
    exact propext h.feeds_iff
  rw [Acyclic, ← hfeeds]
  exact hw

theorem distinctIds (h : w.Rearranges w') (hw : w.DistinctIds) : w'.DistinctIds := (h.nodes.map _).nodup_iff.1 hw

/-- With distinct ids, look-ups find the same nodes. -/
theorem node?_eq (h : w.Rearranges w') (hw : w.DistinctIds) (id : String) : w.node? id = w'.node? id := by
  refine Option.ext fun n => ?_
  rw [hw.node?_eq_some_iff, (h.distinctIds hw).node?_eq_some_iff, h.nodes.mem_iff]

/-- The order of the parts does not matter to the integrity of the whole. -/
theorem sound (h : w.Rearranges w') (hw : w.Sound) : w'.Sound := by
  refine ⟨h.distinctIds hw.distinctIds, (h.connections.map _).nodup_iff.1 hw.connectionIds_nodup,
    (h.connections.map _).nodup_iff.1 hw.ends_nodup, fun c hc => ?_⟩
  have hjoinable := hw.joinable c (h.connections.mem_iff.2 hc)
  rw [Joinable, h.node?_eq hw.distinctIds, h.node?_eq hw.distinctIds, h.rules] at hjoinable
  exact hjoinable

theorem accepts (h : w.Rearranges w') {r : Registry} {n : Node} (hn : n ∈ w.nodes) (hw : r.Accepts w n) :
    r.Accepts w' n := by
  rw [Registry.Accepts, ← h.inbound n hn]
  exact hw

theorem yields (h : w.Rearranges w') {r : Registry} {inputs outputs : Dict Value} {v : Node} (hv : v ∈ w.nodes)
    {result : Except HandlerError Value} (hw : r.Yields w inputs outputs v result) :
    r.Yields w' inputs outputs v result := by
  obtain ⟨kind, handler, values, hkind, hvalues, hresult⟩ := hw
  refine ⟨kind, handler, values, hkind, ?_, hresult⟩
  rw [Receives, ← h.inbound v hv]
  exact hvalues

theorem consistent (h : w.Rearranges w') {r : Registry} {inputs outputs : Dict Value}
    (hw : r.Consistent w inputs outputs) : r.Consistent w' inputs outputs :=
  fun v hv x hx => h.yields (h.nodes.mem_iff.2 hv) (hw v (h.nodes.mem_iff.2 hv) x hx)

/-- A rearranged workflow has a plan if the workflow has one. -/
theorem exists_plan (h : w.Rearranges w') {r : Registry} (hw : ∃ p, r.compile w = .ok p) :
    ∃ p, r.compile w' = .ok p := by
  obtain ⟨hsound, hacyclic, haccepts⟩ := Registry.compile_isOk_iff.1 hw
  refine Registry.compile_isOk_iff.2 ⟨h.sound hsound, h.acyclic hacyclic, fun n hn => ?_⟩
  exact h.accepts (h.nodes.mem_iff.2 hn) (haccepts n (h.nodes.mem_iff.2 hn))

end Workflow.Rearranges

/-! ## Agreement -/

namespace Registry

variable {r : Registry} {w : Workflow} {inputs outputs outputs' : Dict Value}

/-- **Outputs are determined by the graph.** Of two sets of outputs that are what their nodes yield, however few
each of them has, no node has different outputs in the two. -/
theorem Consistent.agree (hw : w.Sound) (hacyclic : w.Acyclic) (h : r.Consistent w inputs outputs)
    (h' : r.Consistent w inputs outputs') {id : String} (hid : id ∈ w.ids) {x x' : Value}
    (hx : outputs.get? id = some x) (hx' : outputs'.get? id = some x') : x = x' := by
  have hwf : WellFounded w.Feeds := hw.distinctIds.wellFounded_feeds hacyclic
  -- The induction goes back along the connections, from a node to those that feed it.
  induction id using hwf.induction generalizing x x' with
  | _ id ih =>
    obtain ⟨v, hv, rfl⟩ := Workflow.mem_ids.1 hid
    have hresult := (h v hv x hx).agree (h' v hv x' hx') fun c hc y y' hy hy' => by
      obtain ⟨hmem, htarget⟩ := List.mem_filter.1 hc
      have hfeeds := hw.feeds hmem
      rw [show c.target = v.id by simpa using htarget] at hfeeds
      exact ih c.origin hfeeds hfeeds.1 hy hy'
    exact Except.ok.inj hresult

/-- No node that has an output on one side yields an error on the other. -/
theorem Consistent.not_yields_error (hw : w.Sound) (hacyclic : w.Acyclic) (h : r.Consistent w inputs outputs)
    (h' : r.Consistent w inputs outputs') {v : Node} (hv : v ∈ w.nodes) {x : Value}
    (hx : outputs.get? v.id = some x) {error : HandlerError} : ¬ r.Yields w inputs outputs' v (.error error) := by
  intro herror
  have hresult := (h v hv x hx).agree herror fun c hc y y' hy hy' =>
    h.agree hw hacyclic h' (hw.feeds (List.mem_filter.1 hc).1).1 hy hy'
  cases hresult

end Registry

/-! ## Runs -/

namespace Workflow.Rearranges

variable {w w' : Workflow} {r : Registry} {p p' : Plan} {inputs : Dict Value} {id : String} {x x' : Value}

/-- An output that a node has in two runs is the same in both, however they end. -/
theorem output_eq (h : w.Rearranges w') (hp : r.compile w = .ok p) (hp' : r.compile w' = .ok p')
    {c c' : Cancellation} (hx : (p.run inputs c).outputs.get? id = some x)
    (hx' : (p'.run inputs c').outputs.get? id = some x') : x = x' := by
  obtain ⟨hsound, hacyclic, -⟩ := Registry.compile_isOk_iff.1 ⟨p, hp⟩
  have hfaithful := Registry.faithful_of_compile hp
  have hconsistent' := (Registry.faithful_of_compile hp').run_consistent (h.sound hsound).distinctIds inputs c'
  exact (hfaithful.run_consistent hsound.distinctIds inputs c).agree hsound hacyclic (h.symm.consistent hconsistent')
    (hfaithful.mem_ids_of_output hx) hx hx'

/-- If the run of a workflow comes to its end, so does that of a rearranged one. -/
theorem succeeded (h : w.Rearranges w') (hp : r.compile w = .ok p) (hp' : r.compile w' = .ok p')
    (hrun : (p.run inputs .ignored).succeeded = true) : (p'.run inputs .ignored).succeeded = true := by
  obtain ⟨hsound, hacyclic, -⟩ := Registry.compile_isOk_iff.1 ⟨p, hp⟩
  have hfaithful := Registry.faithful_of_compile hp
  have hfaithful' := Registry.faithful_of_compile hp'
  have hconsistent := hfaithful.run_consistent hsound.distinctIds inputs .ignored
  have hconsistent' := hfaithful'.run_consistent (h.sound hsound).distinctIds inputs .ignored
  -- The other run may fail anywhere, but wherever it did, the first run has an output of that node.
  refine hfaithful'.succeeded_of_not_yields_error fun v hv' error herror => ?_
  have hv : v ∈ w.nodes := h.nodes.mem_iff.2 hv'
  obtain ⟨x, hx⟩ := (hfaithful.run_of_succeeded hrun).2 v.id (id_mem_ids hv)
  exact hconsistent.not_yields_error hsound hacyclic (h.symm.consistent hconsistent') hv hx (h.symm.yields hv' herror)

/-- Runs that come to their end have the same outputs. -/
theorem outputs_eq (h : w.Rearranges w') (hp : r.compile w = .ok p) (hp' : r.compile w' = .ok p')
    (hrun : (p.run inputs .ignored).succeeded = true) :
    (p.run inputs .ignored).outputs = (p'.run inputs .ignored).outputs := by
  have hfaithful := Registry.faithful_of_compile hp
  have hfaithful' := Registry.faithful_of_compile hp'
  have hall := (hfaithful.run_of_succeeded hrun).2
  have hall' := (hfaithful'.run_of_succeeded (h.succeeded hp hp' hrun)).2
  refine Dict.ext_get? fun id => Option.ext fun x => ?_
  constructor
  · intro hx
    obtain ⟨x', hx'⟩ := hall' id (h.mem_ids.1 (hfaithful.mem_ids_of_output hx))
    rw [hx', h.output_eq hp hp' hx hx']
  · intro hx
    obtain ⟨x', hx'⟩ := hall id (h.mem_ids.2 (hfaithful'.mem_ids_of_output hx))
    rw [hx', h.output_eq hp hp' hx' hx]

/-- What is collected from outputs is collected from them in a rearranged workflow. -/
theorem collect_eq (h : w.Rearranges w') (hw : w.DistinctIds) (hp : r.Faithful w p) (hp' : r.Faithful w' p')
    (outputs : Dict Value) : p.collect outputs = p'.collect outputs := by
  refine Dict.ext_get? fun id => Option.ext fun x => ?_
  rw [hp.collect_get?_eq_some_iff hw, hp'.collect_get?_eq_some_iff (h.distinctIds hw)]
  simp only [h.nodes.mem_iff]

/-- **The order of nodes and connections does not matter.** A rearranged workflow has a plan where the workflow has
one. Run on the same inputs, with no request to end heeded, both plans succeed or both fail; if they succeed they have
the same outputs and collect the same; and whichever steps they fail at, no node has different outputs in the two. -/
theorem outcomes_agree (h : w.Rearranges w') (r : Registry) (inputs : Dict Value) :
    ((∃ p, r.compile w = .ok p) ↔ ∃ p', r.compile w' = .ok p') ∧
      ∀ p p', r.compile w = .ok p → r.compile w' = .ok p' →
        ((p.run inputs .ignored).succeeded = true ↔ (p'.run inputs .ignored).succeeded = true) ∧
        ((p.run inputs .ignored).succeeded = true →
          (p.run inputs .ignored).outputs = (p'.run inputs .ignored).outputs ∧
          (p.run inputs .ignored).collected = (p'.run inputs .ignored).collected) ∧
        ∀ id x x', (p.run inputs .ignored).output? id = some x → (p'.run inputs .ignored).output? id = some x' →
          x = x' := by
  refine ⟨⟨h.exists_plan, h.symm.exists_plan⟩, fun p p' hp hp' => ?_⟩
  refine ⟨⟨h.succeeded hp hp', h.symm.succeeded hp' hp⟩, fun hrun => ?_, fun id x x' => h.output_eq hp hp'⟩
  obtain ⟨hsound, -, -⟩ := Registry.compile_isOk_iff.1 ⟨p, hp⟩
  have hfaithful := Registry.faithful_of_compile hp
  have hfaithful' := Registry.faithful_of_compile hp'
  have houtputs := h.outputs_eq hp hp' hrun
  refine ⟨houtputs, ?_⟩
  rw [(hfaithful.run_of_succeeded hrun).1, (hfaithful'.run_of_succeeded (h.succeeded hp hp' hrun)).1, ← houtputs]
  exact h.collect_eq hsound.distinctIds hfaithful hfaithful' _

end Workflow.Rearranges

/-- The confluence with its nodes and connections in another order, in which the other source comes first. -/
def Workflow.turnedConfluence : Workflow :=
  { confluence with nodes := confluence.nodes.rotate 2, connections := confluence.connections.rotate 1 }

theorem Workflow.outcomes_agree_turnedConfluence :
    confluence.Rearranges turnedConfluence ∧
      ∃ p p', Registry.builtin.compile confluence = .ok p ∧ Registry.builtin.compile turnedConfluence = .ok p' ∧
        p.order = ["b", "a", "both", "out"] ∧ p'.order = ["a", "b", "both", "out"] ∧
        (p.run .empty .ignored).succeeded = true ∧
        (p.run .empty .ignored).outputs = (p'.run .empty .ignored).outputs := by
  have h : confluence.Rearranges turnedConfluence :=
    ⟨rfl, List.IsRotated.perm ⟨2, rfl⟩, List.IsRotated.perm ⟨1, rfl⟩, by decide⟩
  have hrun : (Registry.builtin.compile confluence).map
      (fun p => (p.order, (p.run .empty .ignored).succeeded)) = .ok (["b", "a", "both", "out"], true) := by cbv
  have hrun' : (Registry.builtin.compile turnedConfluence).map Plan.order = .ok ["a", "b", "both", "out"] := by cbv
  obtain ⟨p, hp, hplan⟩ := Registry.exists_plan_of_map_eq_ok hrun
  obtain ⟨p', hp', horder'⟩ := Registry.exists_plan_of_map_eq_ok hrun'
  obtain ⟨horder, hsucceeded⟩ := Prod.mk.inj hplan
  obtain ⟨houtputs, -⟩ := ((Rearranges.outcomes_agree h .builtin .empty).2 p p' hp hp').2.1 hsucceeded
  exact ⟨h, p, p', hp, hp', horder, horder', hsucceeded, houtputs⟩

end Dataflow
