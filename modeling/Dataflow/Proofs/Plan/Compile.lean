import Dataflow.Plan
import Dataflow.Proofs.Graph.Sound
import Dataflow.Proofs.Order.Execution
import Mathlib.Computability.Primrec.List
import Mathlib.Data.List.Forall2
/-!
Which workflows have a plan, and what their plan is.

Making a plan is a pipeline of checks that stops at the first fault. Each stage is said here without the pipeline:
a node is accepted or has one fault (`Registry.Accepts`, `Registry.Faulty`), a list of nodes has all its steps or a
first node with a fault, and a workflow has a plan if it is sound, free of cycles, and has accepted nodes only. A
plan that is made is faithful (`Registry.Faithful`): its steps are the nodes in execution order, with what the
workflow and the registry say of each.

The handlers of a plan are kept under the kinds that they are registered under, and not by step. That no step finds
the handler of another is a fact about the registry: whatever name leads to a kind, the handler found is the one
registered under it (`handlers_get?_of_resolve?`).
-/

set_option autoImplicit false

namespace Dataflow

/-! ## Nodes -/

/-- A step says of a node what the workflow says of it. -/
structure Step.Describes (s : Step) (w : Workflow) (n : Node) : Prop where
  nodeId : s.nodeId = n.id
  role : s.role = n.role
  kind : s.kind = n.kind
  config : s.config = n.config
  inbound : s.inbound = (w.inbound n.id).map (·.origin)

namespace Registry

variable {r : Registry} {w : Workflow} {n : Node}

/-- A handler does the work of a node, takes as many connections as the node has, and accepts its settings. -/
def Accepts (r : Registry) (w : Workflow) (n : Node) : Prop :=
  ∃ kind h, r.resolve? n.kind = some (kind, h) ∧ h.arity.accepts (w.inbound n.id).length = true ∧
    h.validate n.config = .ok ()

/-- What is wrong with a node that is not accepted. The kind comes before the connections, and those before the
settings. -/
inductive Faulty (r : Registry) (w : Workflow) (n : Node) : CompileError → Prop where
  | unknownKind (hkind : r.resolve? n.kind = none) : Faulty r w n (.unknownKind n.id n.kind)
  | arity {kind : String} {h : Handler} (hkind : r.resolve? n.kind = some (kind, h))
      (harity : h.arity.accepts (w.inbound n.id).length = false) :
    Faulty r w n (.arity n.id n.kind h.arity (w.inbound n.id).length)
  | invalidConfig {kind : String} {h : Handler} {fault : ConfigFault}
      (hkind : r.resolve? n.kind = some (kind, h)) (harity : h.arity.accepts (w.inbound n.id).length = true)
      (hconfig : h.validate n.config = .error fault) : Faulty r w n (.invalidConfig n.id fault)

/-- Whatever name leads to a registered kind, it leads to the handler registered under it. -/
theorem handlers_get?_of_resolve? {name kind : String} {h : Handler} (hr : r.resolve? name = some (kind, h)) :
    r.handlers.get? kind = some h := by
  rw [resolve?] at hr
  split at hr
  · rename_i handler hget
    obtain ⟨rfl, rfl⟩ : name = kind ∧ handler = h := by simpa using hr
    exact hget
  · obtain ⟨target, -, hr⟩ := Option.bind_eq_some_iff.1 hr
    obtain ⟨handler, hget, hr⟩ := Option.bind_eq_some_iff.1 hr
    obtain ⟨rfl, rfl⟩ : target = kind ∧ handler = h := by simpa using hr
    exact hget

theorem compileNode_eq_ok_iff {s : Step} {h : Handler} :
    r.compileNode w n = .ok (s, h) ↔ s.Describes w n ∧ r.resolve? n.kind = some (s.handlerKind, h) ∧
      h.arity.accepts (w.inbound n.id).length = true ∧ h.validate n.config = .ok () := by
  rw [compileNode]
  cases hkind : r.resolve? n.kind with
  | none => simp
  | some found =>
    obtain ⟨kind, handler⟩ := found
    simp only [List.length_map]
    constructor
    · intro hok
      split_ifs at hok with harity
      split at hok
      · rename_i hconfig
        obtain ⟨rfl, rfl⟩ := Prod.mk.inj (Except.ok.inj hok)
        exact ⟨⟨rfl, rfl, rfl, rfl, rfl⟩, rfl, harity, hconfig⟩
      · simp at hok
    · rintro ⟨hdescribes, hfound, harity, hconfig⟩
      obtain ⟨rfl, rfl⟩ : kind = s.handlerKind ∧ handler = h := by simpa using hfound
      obtain ⟨nodeId, role, stepKind, handlerKind, inbound, config⟩ := s
      obtain ⟨rfl, rfl, rfl, rfl, rfl⟩ := hdescribes
      simp [harity, hconfig]

theorem compileNode_eq_error_iff {e : CompileError} : r.compileNode w n = .error e ↔ r.Faulty w n e := by
  rw [compileNode]
  cases hkind : r.resolve? n.kind with
  | none =>
    constructor
    · intro h
      obtain rfl := Except.error.inj h
      exact .unknownKind hkind
    · intro h
      cases h with
      | unknownKind => rfl
      | arity hfound => simp [hkind] at hfound
      | invalidConfig hfound => simp [hkind] at hfound
  | some found =>
    obtain ⟨kind, handler⟩ := found
    simp only [List.length_map]
    constructor
    · intro h
      split_ifs at h with harity
      · split at h
        · simp at h
        · rename_i fault hconfig
          obtain rfl := Except.error.inj h
          exact .invalidConfig hkind harity hconfig
      · obtain rfl := Except.error.inj h
        exact .arity hkind (by simpa using harity)
    · intro h
      cases h with
      | unknownKind hnone => simp [hkind] at hnone
      | arity hfound harity =>
        obtain ⟨rfl, rfl⟩ : kind = _ ∧ handler = _ := by simpa [hkind] using hfound
        simp [harity]
      | invalidConfig hfound harity hconfig =>
        obtain ⟨rfl, rfl⟩ : kind = _ ∧ handler = _ := by simpa [hkind] using hfound
        simp [harity, hconfig]

/-- A node is accepted if and only if it has a step. -/
theorem accepts_iff : r.Accepts w n ↔ ∃ sh, r.compileNode w n = .ok sh := by
  constructor
  · rintro ⟨kind, h, hkind, harity, hconfig⟩
    exact ⟨⟨⟨n.id, n.role, n.kind, kind, (w.inbound n.id).map (·.origin), n.config⟩, h⟩,
      compileNode_eq_ok_iff.2 ⟨⟨rfl, rfl, rfl, rfl, rfl⟩, hkind, harity, hconfig⟩⟩
  · rintro ⟨⟨s, h⟩, hok⟩
    obtain ⟨-, hkind, harity, hconfig⟩ := compileNode_eq_ok_iff.1 hok
    exact ⟨s.handlerKind, h, hkind, harity, hconfig⟩

/-! ## Lists of nodes -/

theorem compileNodes_eq_ok_iff {nodes : List Node} {steps : List (Step × Handler)} :
    r.compileNodes w nodes = .ok steps ↔ List.Forall₂ (fun n sh => r.compileNode w n = .ok sh) nodes steps := by
  induction nodes generalizing steps with
  | nil => cases steps <;> simp [compileNodes]
  | cons n nodes ih =>
    rw [compileNodes]
    cases hn : r.compileNode w n with
    | error e =>
      refine ⟨fun h => by simp [bind, Except.bind] at h, fun h => ?_⟩
      cases h with
      | cons hhead => simp [hn] at hhead
    | ok sh =>
      constructor
      · intro h
        cases hrest : r.compileNodes w nodes with
        | error e => simp [bind, Except.bind, hrest] at h
        | ok rest =>
          obtain rfl : sh :: rest = steps := by simpa [bind, Except.bind, hrest] using h
          exact .cons hn (ih.1 hrest)
      · intro h
        cases h with
        | cons hhead htail =>
          obtain rfl := Except.ok.inj (hn.symm.trans hhead)
          simp [bind, Except.bind, ih.2 htail]

/-- The fault of a list of nodes is that of its first node with a fault. -/
theorem compileNodes_eq_error_iff {nodes : List Node} {e : CompileError} :
    r.compileNodes w nodes = .error e ↔
      ∃ front n back, nodes = front ++ n :: back ∧ (∀ m ∈ front, r.Accepts w m) ∧ r.Faulty w n e := by
  induction nodes with
  | nil => simp [compileNodes]
  | cons n nodes ih =>
    rw [compileNodes]
    cases hn : r.compileNode w n with
    | error found =>
      constructor
      · intro h
        obtain rfl : found = e := by simpa [bind, Except.bind] using h
        exact ⟨[], n, nodes, rfl, by simp, compileNode_eq_error_iff.1 hn⟩
      · rintro ⟨front, m, back, hsplit, hfront, hfault⟩
        cases front with
        | nil =>
          obtain ⟨rfl, rfl⟩ := List.cons.inj hsplit
          rw [compileNode_eq_error_iff.2 hfault] at hn
          simpa [bind, Except.bind] using hn.symm
        | cons m' front =>
          obtain ⟨rfl, -⟩ := List.cons.inj hsplit
          obtain ⟨sh, hok⟩ := accepts_iff.1 (hfront n (List.mem_cons_self ..))
          simp [hn] at hok
    | ok sh =>
      have hstep : (do
          let steps ← r.compileNodes w nodes
          Except.ok (sh :: steps)) = .error e ↔ r.compileNodes w nodes = .error e := by
        cases r.compileNodes w nodes <;> simp [bind, Except.bind]
      refine hstep.trans (ih.trans ?_)
      constructor
      · rintro ⟨front, m, back, rfl, hfront, hfault⟩
        exact ⟨n :: front, m, back, rfl, List.forall_mem_cons.2 ⟨accepts_iff.2 ⟨sh, hn⟩, hfront⟩, hfault⟩
      · rintro ⟨front, m, back, hsplit, hfront, hfault⟩
        cases front with
        | nil =>
          obtain ⟨rfl, rfl⟩ := List.cons.inj hsplit
          rw [compileNode_eq_error_iff.2 hfault] at hn
          simp at hn
        | cons m' front =>
          obtain ⟨rfl, rfl⟩ := List.cons.inj hsplit
          exact ⟨front, m, back, rfl, fun x hx => hfront x (List.mem_cons_of_mem _ hx), hfault⟩

/-- The steps of a list of nodes are those of its nodes. -/
theorem mem_of_compileNodes {nodes : List Node} {steps : List (Step × Handler)}
    (h : r.compileNodes w nodes = .ok steps) :
    (∀ n ∈ nodes, ∃ sh ∈ steps, r.compileNode w n = .ok sh) ∧
      ∀ sh ∈ steps, ∃ n ∈ nodes, r.compileNode w n = .ok sh := by
  have hsteps := compileNodes_eq_ok_iff.1 h
  clear h
  induction hsteps with
  | nil => simp
  | cons hhead _ ih =>
    rw [List.forall_mem_cons, List.forall_mem_cons]
    refine ⟨⟨⟨_, List.mem_cons_self .., hhead⟩, fun n hn => ?_⟩, ⟨⟨_, List.mem_cons_self .., hhead⟩, fun sh hsh => ?_⟩⟩
    · obtain ⟨sh, hsh, hok⟩ := ih.1 n hn
      exact ⟨sh, List.mem_cons_of_mem _ hsh, hok⟩
    · obtain ⟨n, hn, hok⟩ := ih.2 sh hsh
      exact ⟨n, List.mem_cons_of_mem _ hn, hok⟩

/-- The steps of a list of nodes have the ids of its nodes. -/
theorem map_nodeId_of_compileNodes {nodes : List Node} {steps : List (Step × Handler)}
    (h : r.compileNodes w nodes = .ok steps) : steps.map (·.1.nodeId) = nodes.map (·.id) := by
  have hsteps := compileNodes_eq_ok_iff.1 h
  clear h
  induction hsteps with
  | nil => rfl
  | cons hhead _ ih => rw [List.map_cons, List.map_cons, ih, (compileNode_eq_ok_iff.1 hhead).1.nodeId]

/-- All nodes of a list have steps where all of them are accepted. -/
theorem compileNodes_isOk_iff {nodes : List Node} :
    (∃ steps, r.compileNodes w nodes = .ok steps) ↔ ∀ n ∈ nodes, r.Accepts w n := by
  constructor
  · rintro ⟨steps, hok⟩ n hn
    obtain ⟨sh, -, hsh⟩ := (mem_of_compileNodes hok).1 n hn
    exact accepts_iff.2 ⟨sh, hsh⟩
  · intro hall
    cases hres : r.compileNodes w nodes with
    | ok steps => exact ⟨steps, rfl⟩
    | error e =>
      obtain ⟨front, n, back, rfl, -, hfault⟩ := compileNodes_eq_error_iff.1 hres
      obtain ⟨sh, hok⟩ := accepts_iff.1 (hall n (by simp))
      rw [compileNode_eq_error_iff.2 hfault] at hok
      simp at hok

end Registry

/-! ## Nodes in execution order -/

namespace Workflow

variable {w : Workflow} {order : List String}

/-- The nodes looked up in an order of ids have these ids. -/
theorem map_id_filterMap_node? (h : ∀ id ∈ order, id ∈ w.ids) :
    (order.filterMap w.node?).map (·.id) = order := by
  have hid (a : String) (ha : a ∈ order) : (w.node? a).map (·.id) = some (id a) := by
    obtain ⟨n, hn⟩ := node?_isSome (h a ha)
    rw [hn, Option.map_some, (of_node?_eq_some hn).2, id]
  rw [List.map_filterMap, List.filterMap_eq_map_iff_forall_eq_some.2 hid, List.map_id]

/-- The nodes looked up in an order of all ids are all nodes. -/
theorem DistinctIds.filterMap_node?_perm (hw : w.DistinctIds) (hperm : order.Perm w.ids) :
    (order.filterMap w.node?).Perm w.nodes := by
  have hids := map_id_filterMap_node? fun id hid => hperm.mem_iff.1 hid
  have hnodup : (order.filterMap w.node?).Nodup := by
    refine List.Nodup.of_map (·.id) ?_
    rw [hids]
    exact hperm.nodup_iff.2 hw
  refine (List.perm_ext_iff_of_nodup hnodup (List.Nodup.of_map (fun n : Node => n.id) hw)).2 fun n => ?_
  rw [List.mem_filterMap]
  constructor
  · rintro ⟨id, -, hn⟩
    exact (of_node?_eq_some hn).1
  · intro hn
    exact ⟨n.id, hperm.mem_iff.2 (id_mem_ids hn), hw.node?_eq_some_iff.2 ⟨hn, rfl⟩⟩

end Workflow

/-! ## Workflows -/

namespace Registry

variable {r : Registry} {w : Workflow} {p : Plan}

/-- Why a workflow has no plan: the first thing wrong with it, then the cycle that the search meets, then the fault
of the first node in execution order that has one. -/
inductive FirstFault (r : Registry) (w : Workflow) : CompileError → Prop where
  | integrity {error : IntegrityError} (h : w.checkIntegrity = .error error) : FirstFault r w (.integrity error)
  | cycle {cycle : Cycle} (hsound : w.checkIntegrity = .ok ()) (h : w.executionOrder = .error cycle) :
    FirstFault r w (.cycle cycle)
  | node {front back : List String} {n : Node} {e : CompileError} (hsound : w.checkIntegrity = .ok ())
      (horder : w.executionOrder = .ok (front ++ n.id :: back)) (hn : n ∈ w.nodes)
      (hfront : ∀ m ∈ w.nodes, m.id ∈ front → r.Accepts w m) (hfault : r.Faulty w n e) : FirstFault r w e

/-- What a plan says of a workflow, if it says it right. -/
structure Faithful (r : Registry) (w : Workflow) (p : Plan) : Prop where
  /-- One step for each node, in execution order. -/
  order : w.executionOrder = .ok p.order
  perm : p.order.Perm w.ids
  /-- Each step says of its node what the workflow says, and finds the handler that the registry has for it. -/
  steps : ∀ s ∈ p.steps, ∃ n ∈ w.nodes, s.Describes w n ∧
    ∃ h, r.resolve? n.kind = some (s.handlerKind, h) ∧ p.handler? s = some h
  /-- A step takes from earlier steps only. -/
  earlier : ∀ front s back, p.steps = front ++ s :: back → ∀ id ∈ s.inbound, id ∈ front.map (·.nodeId)
  source : ∀ s ∈ p.steps, s.role = .source → s.inbound = []
  sink : ∀ s ∈ p.steps, s.role = .sink → ∀ t ∈ p.steps, s.nodeId ∉ t.inbound

/-- A plan holds the steps of the nodes in execution order. -/
theorem compile_eq_ok_iff : r.compile w = .ok p ↔ w.Sound ∧ ∃ order steps, w.executionOrder = .ok order ∧
    r.compileNodes w (order.filterMap w.node?) = .ok steps ∧ p = Plan.ofSteps steps := by
  rw [compile]
  cases hintegrity : w.checkIntegrity with
  | error error =>
    refine ⟨fun h => by simp at h, fun ⟨hsound, _⟩ => ?_⟩
    rw [Workflow.checkIntegrity_eq_ok_iff.2 hsound] at hintegrity
    simp at hintegrity
  | ok u =>
    have hsound : w.Sound := Workflow.checkIntegrity_eq_ok_iff.1 hintegrity
    cases horder : w.executionOrder with
    | error cycle => simp
    | ok order =>
      cases hsteps : r.compileNodes w (order.filterMap w.node?) with
      | error e => simp [Except.map, hsteps]
      | ok steps =>
        simp only [hsteps, Except.map, Except.ok.injEq]
        constructor
        · rintro rfl
          exact ⟨hsound, order, steps, rfl, hsteps, rfl⟩
        · rintro ⟨-, order', steps', rfl, hsteps', rfl⟩
          rw [Except.ok.inj (hsteps.symm.trans hsteps')]

/-- **Which workflows have a plan.** -/
theorem compile_isOk_iff :
    (∃ p, r.compile w = .ok p) ↔ w.Sound ∧ w.Acyclic ∧ ∀ n ∈ w.nodes, r.Accepts w n := by
  constructor
  · rintro ⟨p, hp⟩
    obtain ⟨hsound, order, steps, horder, hsteps, -⟩ := compile_eq_ok_iff.1 hp
    obtain ⟨hperm, -⟩ := hsound.distinctIds.order_spec horder
    refine ⟨hsound, hsound.distinctIds.acyclic_of_order horder, fun n hn => ?_⟩
    refine compileNodes_isOk_iff.1 ⟨steps, hsteps⟩ n ?_
    exact (hsound.distinctIds.filterMap_node?_perm hperm).mem_iff.2 hn
  · rintro ⟨hsound, hacyclic, hall⟩
    obtain ⟨order, horder⟩ := hsound.distinctIds.exists_order hacyclic
    obtain ⟨hperm, -⟩ := hsound.distinctIds.order_spec horder
    have hnodes : ∃ steps, r.compileNodes w (order.filterMap w.node?) = .ok steps :=
      compileNodes_isOk_iff.2 fun n hn => hall n ((hsound.distinctIds.filterMap_node?_perm hperm).mem_iff.1 hn)
    obtain ⟨steps, hsteps⟩ := hnodes
    exact ⟨_, compile_eq_ok_iff.2 ⟨hsound, order, steps, horder, hsteps, rfl⟩⟩

/-- Over the nodes in an order of all ids, the fault is that of the first id whose node has one. -/
theorem compileNodes_filterMap_eq_error_iff (hw : w.DistinctIds) {order : List String} (hperm : order.Perm w.ids)
    {e : CompileError} : r.compileNodes w (order.filterMap w.node?) = .error e ↔
      ∃ front n back, order = front ++ n.id :: back ∧ n ∈ w.nodes ∧
        (∀ m ∈ w.nodes, m.id ∈ front → r.Accepts w m) ∧ r.Faulty w n e := by
  rw [compileNodes_eq_error_iff]
  constructor
  · rintro ⟨front, n, back, hsplit, hfront, hfault⟩
    have hmem {m : Node} (hm : m ∈ front ++ n :: back) : m ∈ w.nodes :=
      (hw.filterMap_node?_perm hperm).mem_iff.1 (hsplit ▸ hm)
    have hids := Workflow.map_id_filterMap_node? fun id hid => hperm.mem_iff.1 hid
    rw [hsplit, List.map_append, List.map_cons] at hids
    refine ⟨front.map (·.id), n, back.map (·.id), hids.symm, hmem (by simp), fun m hm hid => ?_, hfault⟩
    -- The node with this id is one of those in front, and no other node has the id.
    obtain ⟨m', hm', hsame⟩ := List.mem_map.1 hid
    rw [← hw.eq_of_id_eq (hmem (List.mem_append_left _ hm')) hm hsame]
    exact hfront m' hm'
  · rintro ⟨front, n, back, rfl, hn, hfront, hfault⟩
    refine ⟨front.filterMap w.node?, n, back.filterMap w.node?, ?_, fun m hm => ?_, hfault⟩
    · rw [List.filterMap_append, List.filterMap_cons_some (hw.node?_eq_some_iff.2 ⟨hn, rfl⟩)]
    · obtain ⟨id, hid, hfound⟩ := List.mem_filterMap.1 hm
      obtain ⟨hmem, rfl⟩ := Workflow.of_node?_eq_some hfound
      exact hfront m hmem hid

/-- **Why the others have none.** -/
theorem compile_eq_error_iff {e : CompileError} : r.compile w = .error e ↔ r.FirstFault w e := by
  constructor
  · intro h
    rw [compile] at h
    cases hintegrity : w.checkIntegrity with
    | error error =>
      rw [hintegrity] at h
      obtain rfl := Except.error.inj h
      exact .integrity hintegrity
    | ok u =>
      have hw := (Workflow.checkIntegrity_eq_ok_iff.1 hintegrity).distinctIds
      rw [hintegrity] at h
      cases horder : w.executionOrder with
      | error cycle =>
        rw [horder] at h
        obtain rfl := Except.error.inj h
        exact .cycle hintegrity horder
      | ok order =>
        rw [horder] at h
        cases hnodes : r.compileNodes w (order.filterMap w.node?) with
        | ok steps => simp [hnodes, Except.map] at h
        | error e' =>
          obtain rfl : e' = e := by simpa [hnodes, Except.map] using h
          obtain ⟨front, n, back, rfl, hn, hfront, hfault⟩ :=
            (compileNodes_filterMap_eq_error_iff hw (hw.order_spec horder).1).1 hnodes
          exact .node hintegrity horder hn hfront hfault
  · intro h
    rw [compile]
    cases h with
    | integrity h => rw [h]
    | cycle hsound h => rw [hsound, h]
    | @node front back n e hsound horder hn hfront hfault =>
      have hw := (Workflow.checkIntegrity_eq_ok_iff.1 hsound).distinctIds
      have hnodes := (compileNodes_filterMap_eq_error_iff hw (hw.order_spec horder).1).2
        ⟨front, n, back, rfl, hn, hfront, hfault⟩
      rw [hsound, horder]
      simp only [hnodes, Except.map]

/-- In the plan of some steps, each finds the handler that the registry has for its node. -/
theorem exists_node_of_mem_ofSteps {nodes : List Node} {steps : List (Step × Handler)}
    (hsteps : r.compileNodes w nodes = .ok steps) {s : Step} (hs : s ∈ (Plan.ofSteps steps).steps) :
    ∃ n ∈ nodes, s.Describes w n ∧
      ∃ h, r.resolve? n.kind = some (s.handlerKind, h) ∧ (Plan.ofSteps steps).handler? s = some h := by
  obtain ⟨⟨s, h⟩, hmem, rfl⟩ := List.mem_map.1 hs
  obtain ⟨n, hn, hok⟩ := (mem_of_compileNodes hsteps).2 _ hmem
  obtain ⟨hdescribes, hkind, -, -⟩ := compileNode_eq_ok_iff.1 hok
  refine ⟨n, hn, hdescribes, h, hkind, ?_⟩
  -- Another step may have put its handler under the same kind, but the registry has only one for it.
  refine Dict.get?_ofList_of_mem (List.mem_map.2 ⟨(s, h), hmem, rfl⟩) fun h' hmem' => ?_
  obtain ⟨⟨s', h''⟩, hs', heq⟩ := List.mem_map.1 hmem'
  obtain ⟨hkinds, rfl⟩ := Prod.mk.inj heq
  obtain ⟨m, -, hok'⟩ := (mem_of_compileNodes hsteps).2 _ hs'
  obtain ⟨-, hkind', -, -⟩ := compileNode_eq_ok_iff.1 hok'
  have hsame := handlers_get?_of_resolve? hkind'
  rw [hkinds, handlers_get?_of_resolve? hkind] at hsame
  exact (Option.some.inj hsame).symm

/-- **What a plan says.** -/
theorem faithful_of_compile (hp : r.compile w = .ok p) : r.Faithful w p := by
  obtain ⟨hsound, order, steps, horder, hsteps, rfl⟩ := compile_eq_ok_iff.1 hp
  obtain ⟨hperm, hbefore⟩ := hsound.distinctIds.order_spec horder
  have hids : (Plan.ofSteps steps).order = order := by
    rw [Plan.order, Plan.ofSteps, List.map_map]
    refine (map_nodeId_of_compileNodes hsteps).trans ?_
    exact Workflow.map_id_filterMap_node? fun id hid => hperm.mem_iff.1 hid
  have hnodup : order.Nodup := hperm.nodup_iff.2 hsound.distinctIds
  have hnode (s : Step) (hs : s ∈ (Plan.ofSteps steps).steps) : ∃ n ∈ w.nodes, s.Describes w n ∧
      ∃ h, r.resolve? n.kind = some (s.handlerKind, h) ∧ (Plan.ofSteps steps).handler? s = some h := by
    obtain ⟨n, hn, hrest⟩ := exists_node_of_mem_ofSteps hsteps hs
    exact ⟨n, (hsound.distinctIds.filterMap_node?_perm hperm).mem_iff.1 hn, hrest⟩
  refine ⟨by rw [hids, horder], by rw [hids]; exact hperm, hnode, fun front s back hsplit id hid => ?_,
    fun s hs hrole => ?_, fun s hs hrole t ht hin => ?_⟩
  · obtain ⟨n, -, hdescribes, -⟩ := hnode s (hsplit ▸ by simp)
    rw [hdescribes.inbound] at hid
    obtain ⟨c, hc, rfl⟩ := List.mem_map.1 hid
    obtain ⟨hcmem, htarget⟩ := List.mem_filter.1 hc
    have htarget : c.target = n.id := by simpa using htarget
    have hfeeds := hsound.feeds hcmem
    have hplan : order = front.map (·.nodeId) ++ s.nodeId :: back.map (·.nodeId) := by
      rw [← hids, Plan.order, hsplit, List.map_append, List.map_cons]
    have hbefore' := hbefore _ _ hfeeds
    rw [htarget, ← hdescribes.nodeId, hplan] at hbefore'
    exact hbefore'.mem_front (hplan ▸ hnodup)
  · obtain ⟨n, hn, hdescribes, -⟩ := hnode s hs
    rw [hdescribes.inbound, hsound.inbound_source hn (hdescribes.role ▸ hrole), List.map_nil]
  · obtain ⟨n, hn, hdescribes, -⟩ := hnode s hs
    obtain ⟨m, -, hdescribes', -⟩ := hnode t ht
    rw [hdescribes'.inbound, hdescribes.nodeId] at hin
    obtain ⟨c, hc, horigin⟩ := List.mem_map.1 hin
    exact hsound.origin_ne_sink hn (hdescribes.role ▸ hrole) (List.mem_filter.1 hc).1 horigin

/-- Whatever is computed from a plan shows that there is one. -/
theorem exists_plan_of_map_eq_ok {α : Type*} {f : Plan → α} {a : α} (h : (r.compile w).map f = .ok a) :
    ∃ p, r.compile w = .ok p ∧ f p = a := by
  cases hp : r.compile w with
  | error e => simp [hp, Except.map] at h
  | ok p =>
    rw [hp] at h
    exact ⟨p, rfl, Except.ok.inj h⟩

/-- **Plans are made for the workflows that are in order, and for no others.** A workflow has a plan if and only if
it passes the integrity check, has no cycle, and every node is accepted; if it has none, the error is its first
fault; and the plan it has is faithful. -/
theorem compile_outcomes (r : Registry) (w : Workflow) :
    ((∃ p, r.compile w = .ok p) ↔ w.checkIntegrity = .ok () ∧ w.Acyclic ∧ ∀ n ∈ w.nodes, r.Accepts w n) ∧
      (∀ e, r.compile w = .error e ↔ r.FirstFault w e) ∧
      (∀ p, r.compile w = .ok p → r.Faithful w p) := by
  rw [Workflow.checkIntegrity_eq_ok_iff]
  exact ⟨compile_isOk_iff, fun _ => compile_eq_error_iff, fun _ => faithful_of_compile⟩

end Registry

/-! ## A plan -/

/-- Two sources merged into a sink. The nodes are listed against the connections, the later source is joined first,
and all kinds but one are aliases. -/
def Workflow.confluence : Workflow :=
  .ofParts "confluence"
    [⟨"out", .sink, "output", .empty⟩, ⟨"both", .transform, "merge", .empty⟩, ⟨"a", .source, "input", .empty⟩,
      ⟨"b", .source, "constant", .ofList [("value", .text "B")]⟩]
    [⟨"1", "both", "out"⟩, ⟨"2", "b", "both"⟩, ⟨"3", "a", "both"⟩]

theorem Registry.compile_confluence : ∃ p, builtin.compile .confluence = .ok p ∧
    p.order = ["b", "a", "both", "out"] ∧ builtin.Faithful .confluence p := by
  have hcompiled : (builtin.compile .confluence).map Plan.order = .ok ["b", "a", "both", "out"] := by cbv
  obtain ⟨p, hp, horder⟩ := exists_plan_of_map_eq_ok hcompiled
  exact ⟨p, hp, horder, (compile_outcomes builtin .confluence).2.2 p hp⟩

end Dataflow
