import Dataflow.Proofs.Plan.Compile
/-!
Other names for a kind.

An alias is followed once. So an alias for a name works if and only if a handler is registered under that very name:
a name that is itself an alias is known to a registry and resolves, but no second alias leads through it
(`alias_resolves_iff`). What always works is an alias for the registered kind that the name stands for.

For the plan of a workflow it only matters what its kinds resolve to. That is the theorem about `mapKinds`: where
every kind is replaced by a name that resolves alike, the outcome is the same, a fault included, up to the replaced
names (`compile_mapKinds`). An alias instead of the kind is one case of it.
-/

set_option autoImplicit false

namespace Dataflow

/-! ## Replaced kinds -/

section
variable (f : String → String)

def Node.mapKind (n : Node) : Node := { n with kind := f n.kind }

/-- A workflow with other names for the kinds of its nodes. -/
def Workflow.mapKinds (w : Workflow) : Workflow := { w with nodes := w.nodes.map (Node.mapKind f) }

def Step.mapKind (s : Step) : Step := { s with kind := f s.kind }

/-- A plan whose steps name their kinds otherwise. Its handlers are under registered kinds and stay. -/
def Plan.mapKinds (p : Plan) : Plan := { p with steps := p.steps.map (Step.mapKind f) }

/-- Only the errors about the kind itself and about the number of connections name a kind. -/
def CompileError.mapKind : CompileError → CompileError
  | .unknownKind nodeId kind => .unknownKind nodeId (f kind)
  | .arity nodeId kind expected found => .arity nodeId (f kind) expected found
  | .integrity error => .integrity error
  | .cycle found => .cycle found
  | .invalidConfig nodeId fault => .invalidConfig nodeId fault

end

/-! ### The names that they have -/

theorem Workflow.mapKinds_id (w : Workflow) : w.mapKinds id = w := by
  have hnodes : w.nodes.map (Node.mapKind id) = w.nodes := List.map_id w.nodes
  unfold mapKinds
  rw [hnodes]

theorem Plan.mapKinds_id (p : Plan) : p.mapKinds id = p := by
  have hsteps : p.steps.map (Step.mapKind id) = p.steps := List.map_id p.steps
  unfold mapKinds
  rw [hsteps]

theorem CompileError.mapKind_id (error : CompileError) : error.mapKind id = error := by
  cases error <;> rfl

/-! ### The graph does not look at kinds -/

namespace Workflow

variable (f : String → String) (w : Workflow)

theorem node?_mapKinds (id : String) : (w.mapKinds f).node? id = (w.node? id).map (Node.mapKind f) := by
  unfold node? mapKinds
  rw [List.find?_map]
  rfl

theorem map_id_mapKinds : (w.mapKinds f).nodes.map (·.id) = w.nodes.map (·.id) := by
  unfold mapKinds
  rw [List.map_map]
  rfl

theorem checkConnection_mapKinds (origin target : String) :
    (w.mapKinds f).checkConnection origin target = w.checkConnection origin target := by
  unfold checkConnection
  rw [node?_mapKinds, node?_mapKinds]
  cases w.node? origin with
  | none => rfl
  | some a =>
    cases w.node? target with
    | none => rfl
    | some b => rfl

theorem checkConnections_mapKinds (before rest : List Connection) :
    (w.mapKinds f).checkConnections before rest = w.checkConnections before rest := by
  induction rest generalizing before with
  | nil => rfl
  | cons c rest ih =>
    -- Each connection is checked in the workflow with those before it, which is one with replaced kinds as well.
    have hcheck := checkConnection_mapKinds f { w with connections := before } c.origin c.target
    unfold checkConnections
    rw [ih, ← hcheck]
    rfl

theorem checkIntegrity_mapKinds : (w.mapKinds f).checkIntegrity = w.checkIntegrity := by
  have hconnections := checkConnections_mapKinds f w [] w.connections
  unfold checkIntegrity
  rw [map_id_mapKinds, ← hconnections]
  rfl

theorem position?_mapKind (nodes : List Node) (id : String) :
    Order.position? (nodes.map (Node.mapKind f)) id = Order.position? nodes id := by
  simp only [Order.position?, List.zipIdx_map, List.foldl_map]
  rfl

theorem executionOrder_mapKinds : (w.mapKinds f).executionOrder = w.executionOrder := by
  have hedges : Order.edges (w.mapKinds f) = Order.edges w := by
    simp only [Order.edges, mapKinds, position?_mapKind]
  have hlength : (w.mapKinds f).nodes.length = w.nodes.length := List.length_map ..
  have htakes : (w.mapKinds f).takesFrom = w.takesFrom := by
    funext i
    simp only [takesFrom, hedges, hlength]
  have hids (positions : List Nat) : (w.mapKinds f).idsAt positions = w.idsAt positions := by
    simp only [idsAt, ids, map_id_mapKinds]
  simp only [executionOrder_eq, hlength, htakes, hids]

end Workflow

/-! ### Plans -/

namespace Registry

variable {r r' : Registry} {f : String → String} {w : Workflow}

/-- A name that resolves alike gives the same step, or the same fault. -/
theorem compileNode_mapKinds {n : Node} (h : r'.resolve? (f n.kind) = r.resolve? n.kind) :
    r'.compileNode (w.mapKinds f) (n.mapKind f) =
      ((r.compileNode w n).map fun (s, handler) => (s.mapKind f, handler)).mapError (CompileError.mapKind f) := by
  have hinbound : (w.mapKinds f).inbound n.id = w.inbound n.id := rfl
  have hkind : r'.resolve? (n.mapKind f).kind = r.resolve? n.kind := h
  unfold compileNode
  rw [hkind]
  cases r.resolve? n.kind with
  | none => rfl
  | some found =>
    obtain ⟨kind, handler⟩ := found
    have hid : (n.mapKind f).id = n.id := rfl
    have hconfig : (n.mapKind f).config = n.config := rfl
    simp only [hid, hconfig, hinbound]
    by_cases harity : handler.arity.accepts ((w.inbound n.id).map (·.origin)).length = true
    · rw [if_pos harity, if_pos harity]
      cases handler.validate n.config with
      | ok _ => rfl
      | error fault => rfl
    · rw [if_neg harity, if_neg harity]
      rfl

theorem compileNodes_mapKinds {nodes : List Node} (h : ∀ n ∈ nodes, r'.resolve? (f n.kind) = r.resolve? n.kind) :
    r'.compileNodes (w.mapKinds f) (nodes.map (Node.mapKind f)) =
      ((r.compileNodes w nodes).map (List.map fun (s, handler) => (s.mapKind f, handler))).mapError
        (CompileError.mapKind f) := by
  induction nodes with
  | nil => rfl
  | cons n nodes ih =>
    obtain ⟨hn, hnodes⟩ := List.forall_mem_cons.1 h
    rw [List.map_cons, compileNodes, compileNodes, compileNode_mapKinds hn, ih hnodes]
    cases r.compileNode w n with
    | error error => rfl
    | ok step =>
      cases r.compileNodes w nodes with
      | error error => rfl
      | ok steps => rfl

/-- Steps with other names for their kinds make the same plan up to these names. -/
theorem ofSteps_mapKind (steps : List (Step × Handler)) :
    Plan.ofSteps (steps.map fun (s, handler) => (s.mapKind f, handler)) = (Plan.ofSteps steps).mapKinds f := by
  simp only [Plan.ofSteps, Plan.mapKinds, List.map_map]
  rfl

/-- **What a kind is called does not matter**, as long as each name resolves to what the kind resolves to. -/
theorem compile_mapKinds (h : ∀ n ∈ w.nodes, r'.resolve? (f n.kind) = r.resolve? n.kind) :
    r'.compile (w.mapKinds f) = ((r.compile w).map (Plan.mapKinds f)).mapError (CompileError.mapKind f) := by
  rw [compile, compile, Workflow.checkIntegrity_mapKinds, Workflow.executionOrder_mapKinds]
  cases hintegrity : w.checkIntegrity with
  | error error => rfl
  | ok _ =>
    cases horder : w.executionOrder with
    | error cycle => rfl
    | ok order =>
      have hnodes : order.filterMap (w.mapKinds f).node? = (order.filterMap w.node?).map (Node.mapKind f) := by
        rw [List.map_filterMap]
        exact congrArg (order.filterMap ·) (funext fun id => Workflow.node?_mapKinds f w id)
      have hall : ∀ n ∈ order.filterMap w.node?, r'.resolve? (f n.kind) = r.resolve? n.kind := by
        intro n hn
        obtain ⟨id, -, hfound⟩ := List.mem_filterMap.1 hn
        exact h n (Workflow.of_node?_eq_some hfound).1
      dsimp only
      rw [hnodes, compileNodes_mapKinds hall]
      cases r.compileNodes w (order.filterMap w.node?) with
      | error error => rfl
      | ok steps => exact congrArg Except.ok (ofSteps_mapKind steps)

/-! ## Aliases -/

variable {name kind : String}

/-- A registration is found first. -/
theorem resolve?_of_registered {handler : Handler} (h : r.handlers.get? name = some handler) :
    r.resolve? name = some (name, handler) := by
  unfold resolve?
  rw [h]

/-- A new alias leads to the handler registered under the name it was made for, and to nothing if there is none. -/
theorem resolve?_addAlias (hname : r.handlers.get? name = none) :
    (r.addAlias name kind).resolve? name = (r.handlers.get? kind).map (kind, ·) := by
  have hhandlers : (r.addAlias name kind).handlers = r.handlers := rfl
  have halias : (r.addAlias name kind).aliases.get? name = some kind := by
    show (r.aliases.insert name kind).get? name = some kind
    rw [Dict.get?_insert, if_pos rfl]
  simp only [resolve?, hhandlers, hname, halias, Option.bind_eq_bind, Option.bind_some, Option.map_eq_bind]
  rfl

/-- Other names resolve as before. -/
theorem resolve?_addAlias_of_ne {other : String} (h : other ≠ name) :
    (r.addAlias name kind).resolve? other = r.resolve? other := by
  have hhandlers : (r.addAlias name kind).handlers = r.handlers := rfl
  have halias : (r.addAlias name kind).aliases.get? other = r.aliases.get? other := by
    show (r.aliases.insert name kind).get? other = r.aliases.get? other
    rw [Dict.get?_insert, if_neg h]
  simp only [resolve?, hhandlers, halias]

/-- A name resolves to itself if and only if it is registered; otherwise it has resolved through an alias. -/
theorem contains_handlers_iff {registered : String} {handler : Handler}
    (h : r.resolve? kind = some (registered, handler)) :
    r.handlers.contains kind = true ↔ registered = kind := by
  constructor
  · intro hcontains
    obtain ⟨found, hfound⟩ := Option.isSome_iff_exists.1 hcontains
    rw [resolve?_of_registered hfound] at h
    exact (Prod.mk.inj (Option.some.inj h)).1.symm
  · intro hsame
    have hregistered := handlers_get?_of_resolve? h
    rw [hsame] at hregistered
    exact Option.isSome_iff_exists.2 ⟨handler, hregistered⟩

/-- The kinds of a workflow with one name in place of another. -/
def replacing (kind name : String) (other : String) : String := if other = kind then name else other

/-- **An alias works if and only if it is made for a registered kind.** Let a name resolve, by itself or as an alias.
A new alias for it resolves to the same kind and handler if the name is registered, and to nothing if it is an alias.
An alias for the registered kind behind the name always resolves; in every workflow it may stand in place of the name,
with the same plan and the same handlers, and workflows that do not use it have the plan that they had. -/
theorem alias_resolves_iff {registered : String} {handler : Handler}
    (hkind : r.resolve? kind = some (registered, handler)) (hne : name ≠ kind) (hname : r.handlers.get? name = none) :
    ((r.addAlias name kind).resolve? name = some (registered, handler) ↔ r.handlers.contains kind = true) ∧
      (r.handlers.contains kind = false → (r.addAlias name kind).resolve? name = none) ∧
      (r.addAlias name registered).resolve? name = some (registered, handler) ∧
      (∀ w, (r.addAlias name registered).compile (w.mapKinds (replacing kind name)) =
        (((r.addAlias name registered).compile w).map (Plan.mapKinds (replacing kind name))).mapError
          (CompileError.mapKind (replacing kind name))) ∧
      ∀ w, (∀ n ∈ w.nodes, n.kind ≠ name) → (r.addAlias name registered).compile w = r.compile w := by
  have hregistered : r.handlers.get? registered = some handler := handlers_get?_of_resolve? hkind
  have hworks : (r.addAlias name registered).resolve? name = some (registered, handler) := by
    rw [resolve?_addAlias hname, hregistered, Option.map_some]
  have hfails : r.handlers.contains kind = false → (r.addAlias name kind).resolve? name = none := by
    intro hcontains
    rw [resolve?_addAlias hname, Option.not_isSome_iff_eq_none.1 (Bool.eq_false_iff.1 hcontains), Option.map_none]
  refine ⟨⟨?_, ?_⟩, hfails, hworks, ?_, ?_⟩
  · intro hresolves
    by_contra hcontains
    rw [hfails (Bool.eq_false_iff.2 hcontains)] at hresolves
    cases hresolves
  · intro hcontains
    rw [← (contains_handlers_iff hkind).1 hcontains]
    exact hworks
  · intro w
    apply compile_mapKinds
    intro n _
    unfold replacing
    by_cases hn : n.kind = kind
    · rw [if_pos hn, hworks, hn, resolve?_addAlias_of_ne (Ne.symm hne), hkind]
    · rw [if_neg hn]
  · intro w hw
    have hsame : ∀ n ∈ w.nodes, (r.addAlias name registered).resolve? (id n.kind) = r.resolve? n.kind :=
      fun n hn => resolve?_addAlias_of_ne (hw n hn)
    have hcompile := compile_mapKinds hsame
    rw [Workflow.mapKinds_id] at hcompile
    rw [hcompile]
    cases r.compile w with
    | ok p => exact congrArg Except.ok p.mapKinds_id
    | error error => exact congrArg Except.error error.mapKind_id

/-- The source of the confluence that is an `input` may as well be a `question`, once this is an alias for the kind
that `input` is an alias for. -/
theorem alias_resolves_question : builtin.resolve? "input" = some ("constant-input", constantInput) ∧
    "question" ≠ "input" ∧ builtin.handlers.get? "question" = none ∧
    (builtin.addAlias "question" "constant-input").resolve? "question" = some ("constant-input", constantInput) ∧
    ∃ p, builtin.compile .confluence = .ok p ∧
      (builtin.addAlias "question" "constant-input").compile
        (Workflow.confluence.mapKinds (replacing "input" "question")) =
          .ok (p.mapKinds (replacing "input" "question")) := by
  have hkind : builtin.resolve? "input" = some ("constant-input", constantInput) := rfl
  have hname : builtin.handlers.get? "question" = none := rfl
  have hne : "question" ≠ "input" := by decide
  have hunused : ∀ n ∈ Workflow.confluence.nodes, n.kind ≠ "question" := by decide
  have horder : (builtin.compile .confluence).map Plan.order = .ok ["b", "a", "both", "out"] := by cbv
  obtain ⟨p, hp, -⟩ := exists_plan_of_map_eq_ok horder
  obtain ⟨-, -, hworks, hreplaced, hkept⟩ := alias_resolves_iff hkind hne hname
  refine ⟨hkind, hne, hname, hworks, p, hp, ?_⟩
  rw [hreplaced, hkept _ hunused, hp]
  rfl

/-- An alias for `input` itself resolves to nothing, and a workflow that uses it is refused. -/
theorem alias_lost_question : builtin.resolve? "input" = some ("constant-input", constantInput) ∧
    "question" ≠ "input" ∧ builtin.handlers.get? "question" = none ∧
    (builtin.addAlias "question" "input").resolve? "question" = none ∧
    ((builtin.addAlias "question" "input").compile
      (Workflow.confluence.mapKinds (replacing "input" "question"))).map Plan.order =
        .error (.unknownKind "a" "question") := by
  refine ⟨rfl, by decide, rfl, rfl, ?_⟩
  cbv

end Registry

end Dataflow
