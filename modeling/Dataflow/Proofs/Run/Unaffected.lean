import Dataflow.Proofs.Run.Dataflow
/-!
What a change does not affect.

Two runs are compared here whose workflows differ in the settings of some nodes and whose inputs may differ as well.
`Workflow.Changed` says which nodes are themselves changed by that: those with other settings, and the sources that
find another input. What they put out reaches other nodes along connections only. The main statement is that a node
that is neither changed nor reached from a changed one has no two different outputs in the two runs
(`outputs_unaffected`). The runs themselves may go quite different ways: a changed node may fail in one of them, and
then the steps behind it are missing, which are steps of unaffected nodes too.

The induction goes along connections and not along steps: all nodes that feed an unaffected one are unaffected, while
the steps before it may be those of any nodes.
-/

set_option autoImplicit false

namespace Dataflow

/-- The input that a source finds, under its name or else its id. -/
def Node.input? (v : Node) (inputs : Dict Value) : Option Value := inputs.get? (v.config.textD "name" v.id)

/-! ## Changes -/

namespace Workflow

/-- The same nodes and the same connections, but that nodes may have other settings. -/
structure Reconfigures (w w' : Workflow) : Prop where
  nodes : w.nodes.map (fun v => (v.id, v.role, v.kind)) = w'.nodes.map fun v => (v.id, v.role, v.kind)
  connections : w.connections = w'.connections

/-- A node is changed if it has other settings, or is a source and finds another input. -/
inductive Changed (w w' : Workflow) (inputs inputs' : Dict Value) (id : String) : Prop where
  | config {v v' : Node} (hv : v ∈ w.nodes) (hv' : v' ∈ w'.nodes) (hid : v.id = id) (hid' : v'.id = id)
      (hconfig : v.config ≠ v'.config)
  | input {v v' : Node} (hv : v ∈ w.nodes) (hv' : v' ∈ w'.nodes) (hid : v.id = id) (hid' : v'.id = id)
      (hrole : v.role = .source) (hinput : v.input? inputs ≠ v'.input? inputs')

/-- A node is affected if it is changed or can be reached from a changed one along connections. -/
def Affected (w w' : Workflow) (inputs inputs' : Dict Value) (id : String) : Prop :=
  ∃ a, w.Changed w' inputs inputs' a ∧ Relation.ReflTransGen w.Feeds a id

section
variable {w w' : Workflow} {inputs inputs' : Dict Value}

/-- What feeds an unaffected node is unaffected. -/
theorem not_affected_of_feeds {a b : String} (hb : ¬ w.Affected w' inputs inputs' b) (hfeeds : w.Feeds a b) :
    ¬ w.Affected w' inputs inputs' a := by
  rintro ⟨d, hd, hreach⟩
  exact hb ⟨d, hd, hreach.tail hfeeds⟩

/-- An unaffected node is a node of both workflows, with the same settings, and a source finds the same input. -/
theorem Reconfigures.mem_of_not_affected (h : w.Reconfigures w') {v : Node} (hv : v ∈ w.nodes)
    (hunaffected : ¬ w.Affected w' inputs inputs' v.id) :
    v ∈ w'.nodes ∧ (v.role = .source → v.input? inputs = v.input? inputs') := by
  have hunchanged : ¬ w.Changed w' inputs inputs' v.id := fun hchanged => hunaffected ⟨_, hchanged, .refl⟩
  have hmem : (v.id, v.role, v.kind) ∈ w'.nodes.map fun v => (v.id, v.role, v.kind) := by
    rw [← h.nodes]
    exact List.mem_map.2 ⟨v, hv, rfl⟩
  obtain ⟨v', hv', hsame⟩ := List.mem_map.1 hmem
  simp only [Prod.mk.injEq] at hsame
  obtain ⟨hid, hrole, hkind⟩ := hsame
  have hconfig : v.config = v'.config := by
    by_contra hne
    exact hunchanged (.config hv hv' rfl hid hne)
  have heq : v' = v := by
    cases v
    cases v'
    simp_all
  subst heq
  refine ⟨hv', ?_⟩
  intro hsource
  by_contra hne
  exact hunchanged (.input hv hv' rfl rfl hsource hne)

end

end Workflow

/-! ## Outputs -/

namespace Registry

variable {r : Registry} {w w' : Workflow} {inputs inputs' outputs outputs' : Dict Value}

/-- What a node yields depends on the connections into it and on the input that it finds, and on nothing else of the
workflow and the inputs. -/
theorem Yields.transport {v : Node} {result : Except HandlerError Value} (h : r.Yields w inputs outputs v result)
    (hinbound : w.inbound v.id = w'.inbound v.id) (hinput : v.role = .source → v.input? inputs = v.input? inputs') :
    r.Yields w' inputs' outputs v result := by
  obtain ⟨kind, handler, values, hkind, hvalues, hresult⟩ := h
  refine ⟨kind, handler, values, hkind, ?_, hresult⟩
  unfold Workflow.Receives at hvalues ⊢
  by_cases hrole : v.role = .source
  · rw [if_pos hrole] at hvalues ⊢
    rw [hvalues]
    exact congrArg Option.toList (hinput hrole)
  · rw [if_neg hrole] at hvalues ⊢
    rw [← hinbound]
    exact hvalues

/-- **An unaffected node has one output.** Of outputs that are what their nodes yield, before a change and after it,
however few there are of each, no unaffected node has two different ones. -/
theorem Consistent.agree_of_not_affected (hchange : w.Reconfigures w') (hw : w.Sound) (hacyclic : w.Acyclic)
    (h : r.Consistent w inputs outputs) (h' : r.Consistent w' inputs' outputs') {id : String} (hid : id ∈ w.ids)
    (hunaffected : ¬ w.Affected w' inputs inputs' id) {x x' : Value} (hx : outputs.get? id = some x)
    (hx' : outputs'.get? id = some x') : x = x' := by
  have hwf : WellFounded w.Feeds := hw.distinctIds.wellFounded_feeds hacyclic
  -- The induction goes back along the connections, from a node to those that feed it.
  induction id using hwf.induction generalizing x x' with
  | _ id ih =>
    obtain ⟨v, hv, rfl⟩ := Workflow.mem_ids.1 hid
    obtain ⟨hv', hinput⟩ := hchange.mem_of_not_affected hv hunaffected
    have hinbound : w'.inbound v.id = w.inbound v.id := by
      unfold Workflow.inbound
      rw [hchange.connections]
    have hyields' : r.Yields w inputs outputs' v (.ok x') :=
      (h' v hv' x' hx').transport hinbound fun hrole => (hinput hrole).symm
    have hresult : (.ok x : Except HandlerError Value) = .ok x' := by
      apply (h v hv x hx).agree hyields'
      intro c hc y y' hy hy'
      obtain ⟨hmem, htarget⟩ := List.mem_filter.1 hc
      have hfeeds := hw.feeds hmem
      rw [show c.target = v.id by simpa using htarget] at hfeeds
      exact ih c.origin hfeeds hfeeds.1 (Workflow.not_affected_of_feeds hunaffected hfeeds) hy hy'
    exact Except.ok.inj hresult

end Registry

/-! ## Inputs that nobody looks up -/

namespace Plan

variable {p : Plan} {inputs inputs' : Dict Value} {c : Cancellation}

/-- A step gathers the same values from inputs in which it finds the same. -/
theorem gather_congr {s : Step} {outputs : Dict Value}
    (h : s.role = .source →
      inputs.get? (s.config.textD "name" s.nodeId) = inputs'.get? (s.config.textD "name" s.nodeId)) :
    s.gather inputs outputs = s.gather inputs' outputs := by
  unfold Step.gather
  by_cases hsource : s.role = .source ∧ s.inbound = []
  · rw [if_pos hsource, if_pos hsource, h hsource.1]
  · rw [if_neg hsource, if_neg hsource]

/-- Steps that find the same inputs go the same way. -/
theorem runSteps_congr {steps : List Step}
    (h : ∀ s ∈ steps, ∀ outputs, s.gather inputs outputs = s.gather inputs' outputs)
    (index : Nat) (asked : Bool) (outputs : Dict Value) :
    p.runSteps inputs c index asked outputs steps = p.runSteps inputs' c index asked outputs steps := by
  induction steps generalizing index asked outputs with
  | nil => rfl
  | cons s rest ih =>
    obtain ⟨hs, hrest⟩ := List.forall_mem_cons.1 h
    unfold runSteps
    simp only [hs outputs, ih hrest]

end Plan

namespace Registry.Faithful

/-- A run depends on the inputs that the sources find, and on no other entry of the inputs. -/
theorem run_congr {r : Registry} {w : Workflow} {p : Plan} (hp : r.Faithful w p) {inputs inputs' : Dict Value}
    (h : ∀ v ∈ w.nodes, v.role = .source → v.input? inputs = v.input? inputs') (c : Cancellation) :
    p.run inputs c = p.run inputs' c := by
  have hgather : ∀ s ∈ p.steps, ∀ outputs, s.gather inputs outputs = s.gather inputs' outputs := by
    intro s hs outputs
    obtain ⟨v, hv, hdescribes, -⟩ := hp.steps s hs
    apply Plan.gather_congr
    intro hsource
    rw [hdescribes.config, hdescribes.nodeId]
    exact h v hv (hdescribes.role ▸ hsource)
  unfold Plan.run
  rw [Plan.runSteps_congr hgather]

end Registry.Faithful

/-! ## Runs -/

namespace Workflow.Reconfigures

/-- **A change affects what is downstream of it, and nothing else.** Take two workflows with plans that differ in the
settings of nodes only, and a run of each on inputs of its own. However the runs end, a node that is neither changed
nor reached from a changed one along connections has the same output in both, if it has one in both. And inputs that
differ only where no source looks give the same run: the same outputs, the same log and the same end. -/
theorem outputs_unaffected {w w' : Workflow} (h : w.Reconfigures w') {r : Registry} {p p' : Plan}
    (hp : r.compile w = .ok p) (hp' : r.compile w' = .ok p') (inputs inputs' : Dict Value) (c c' : Cancellation) :
    (∀ id x x', ¬ w.Affected w' inputs inputs' id → (p.run inputs c).output? id = some x →
      (p'.run inputs' c').output? id = some x' → x = x') ∧
    ((∀ v ∈ w.nodes, v.role = .source → v.input? inputs = v.input? inputs') →
      p.run inputs c = p.run inputs' c) := by
  obtain ⟨hsound, hacyclic, -⟩ := Registry.compile_isOk_iff.1 ⟨p, hp⟩
  obtain ⟨hsound', -, -⟩ := Registry.compile_isOk_iff.1 ⟨p', hp'⟩
  have hfaithful := Registry.faithful_of_compile hp
  have hconsistent := hfaithful.run_consistent hsound.distinctIds inputs c
  have hconsistent' := (Registry.faithful_of_compile hp').run_consistent hsound'.distinctIds inputs' c'
  refine ⟨?_, fun hinputs => hfaithful.run_congr hinputs c⟩
  intro id x x' hunaffected hx hx'
  have hid : id ∈ w.ids := hfaithful.mem_ids_of_output hx
  exact hconsistent.agree_of_not_affected h hsound hacyclic hconsistent' hid hunaffected hx hx'

end Workflow.Reconfigures

/-- The confluence, in which the settings of the source `b` ask for another constant. -/
def Workflow.otherConfluence : Workflow :=
  { confluence with
    nodes := confluence.nodes.map fun v =>
      if v.id = "b" then { v with config := .ofList [("value", .text "C")] } else v }

/-- The other source is not affected by that, nor by an input that nobody looks up; what both sources lead to is. -/
theorem Workflow.outputs_unaffected_otherConfluence :
    ∃ p p', Registry.builtin.compile confluence = .ok p ∧ Registry.builtin.compile otherConfluence = .ok p' ∧
      (p.run (.ofList [("a", .text "A")]) .ignored).output? "both" = some (.text "B\nA") ∧
      (p'.run (.ofList [("a", .text "A"), ("d", .text "D")]) .ignored).output? "both" = some (.text "C\nA") ∧
      (∀ x x', (p.run (.ofList [("a", .text "A")]) .ignored).output? "a" = some x →
        (p'.run (.ofList [("a", .text "A"), ("d", .text "D")]) .ignored).output? "a" = some x' → x = x') ∧
      p.run (.ofList [("a", .text "A")]) .ignored = p.run (.ofList [("a", .text "A"), ("d", .text "D")]) .ignored := by
  have h : confluence.Reconfigures otherConfluence := ⟨by decide, rfl⟩
  have hrun : (Registry.builtin.compile confluence).map
      (fun p => (p.run (.ofList [("a", .text "A")]) .ignored).output? "both") = .ok (some (.text "B\nA")) := by cbv
  have hrun' : (Registry.builtin.compile otherConfluence).map
      (fun p => (p.run (.ofList [("a", .text "A"), ("d", .text "D")]) .ignored).output? "both") =
        .ok (some (.text "C\nA")) := by cbv
  obtain ⟨p, hp, hboth⟩ := Registry.exists_plan_of_map_eq_ok hrun
  obtain ⟨p', hp', hboth'⟩ := Registry.exists_plan_of_map_eq_ok hrun'
  obtain ⟨hunaffected, hsame⟩ := h.outputs_unaffected hp hp' (.ofList [("a", .text "A")])
    (.ofList [("a", .text "A"), ("d", .text "D")]) .ignored .ignored
  have ha : ¬ confluence.Affected otherConfluence (.ofList [("a", .text "A")])
      (.ofList [("a", .text "A"), ("d", .text "D")]) "a" := by
    have hfirst : ∀ e ∈ confluence.connections, e.target ≠ "a" := by decide
    have hnodes : ∀ v ∈ confluence.nodes, ∀ v' ∈ otherConfluence.nodes, v.id = "a" → v'.id = "a" →
        v.config = v'.config ∧ v.input? (.ofList [("a", .text "A")]) =
          v'.input? (.ofList [("a", .text "A"), ("d", .text "D")]) := by decide
    rintro ⟨d, hd, hreach⟩
    rcases hreach.cases_tail with heq | ⟨b, -, hfeeds⟩
    · subst heq
      cases hd with
      | config hv hv' hid hid' hconfig => exact hconfig (hnodes _ hv _ hv' hid hid').1
      | input hv hv' hid hid' hrole hinput => exact hinput (hnodes _ hv _ hv' hid hid').2
    · obtain ⟨-, -, e, he, -, htarget⟩ := hfeeds
      exact hfirst e he htarget
  refine ⟨p, p', hp, hp', hboth, hboth', fun x x' => hunaffected "a" x x' ha, hsame ?_⟩
  decide

end Dataflow
