import Dataflow.Proofs.Graph.Edit
/-!
A workflow checked as a whole beside the same workflow built up.

The integrity check judges a workflow that came from elsewhere; the operations that add to a workflow judge what they
are asked to add. Nothing is shared between the two but the rules for one connection. The main statement is that
they agree (`checkIntegrity_agrees`): nodes and connections pass the check exactly when they can be added one after
the other, and where they cannot, the check reports the very reason of the first refusal. Ids of connections are the
one thing that the two do not have in common, since the operations hand out their own; they have to be distinct.
-/

set_option autoImplicit false

namespace Dataflow

/-! ## Building -/

/-- The first node or connection that could not be added, and why. -/
inductive BuildError where
  | node (n : Node) (error : GraphError)
  | connection (c : Connection) (error : ConnectionError)
deriving DecidableEq

namespace Workflow

/-- Adds nodes one after the other. -/
def addNodes (w : Workflow) : List Node → Except BuildError Workflow
  | [] => .ok w
  | n :: ns => match w.addNode n with
    | .ok v => v.addNodes ns
    | .error error => .error (.node n error)

/-- Joins the ends of connections one after the other. -/
def connectAll (w : Workflow) : List Connection → Except BuildError Workflow
  | [] => .ok w
  | c :: cs => match w.connect c.origin c.target with
    | .ok (_, v) => v.connectAll cs
    | .error error => .error (.connection c error)

/-- A new workflow with nodes and connections added in turn. -/
def build (name : String) (rules : Rules) (ns : List Node) (cs : List Connection) : Except BuildError Workflow :=
  match addNodes { name := name, rules := rules } ns with
  | .ok w => w.connectAll cs
  | .error error => .error error

/-! ## One addition -/

variable {w v : Workflow}

theorem addNode_spec (w : Workflow) (n : Node) :
    (n.id ∉ w.ids ∧ w.addNode n = .ok { w with nodes := w.nodes ++ [n] }) ∨
      (n.id ∈ w.ids ∧ w.addNode n = .error (.duplicateNode n.id)) := by
  have houtcome := Edit.perform_outcome w (.addNode n)
  rw [Edit.perform] at houtcome
  cases hn : w.addNode n with
  | ok v =>
    rw [hn] at houtcome
    cases houtcome with
    | added hnew => exact .inl ⟨hnew, rfl⟩
  | error error =>
    rw [hn] at houtcome
    cases houtcome with
    | alreadyThere hold => exact .inr ⟨hold, rfl⟩

theorem connect_spec (w : Workflow) (origin target : String) :
    (w.checkConnection origin target = .ok () ∧ ∃ c v, w.connect origin target = .ok (c, v) ∧
        v.nodes = w.nodes ∧ v.rules = w.rules ∧ v.connections = w.connections ++ [c] ∧
        c.origin = origin ∧ c.target = target) ∨
      ∃ error, w.checkConnection origin target = .error error ∧ w.connect origin target = .error error := by
  have houtcome := Edit.perform_outcome w (.connect origin target)
  rw [Edit.perform] at houtcome
  cases hc : w.connect origin target with
  | ok result =>
    rw [hc] at houtcome
    obtain ⟨c, v⟩ := result
    refine .inl ?_
    cases houtcome with
    | connected hjoin hends hlater hfree hfirst =>
      refine ⟨checkConnection_eq_ok_iff.2 ⟨hjoin, ?_⟩, _, _, rfl, rfl, rfl, rfl, rfl, rfl⟩
      rwa [← Bool.not_eq_true, hasConnection_eq_true_iff]
  | error error =>
    rw [hc] at houtcome
    cases houtcome with
    | notConnected herror => exact .inr ⟨error, herror, rfl⟩

/-! ## Nodes -/

/-- An id is repeated where a node with it cannot be added, and otherwise all nodes are there in the end. The ids
before are those of the workflow that the nodes are added to. -/
theorem addNodes_spec {before : List String} (ns : List Node) (hbefore : ∀ id, id ∈ before ↔ id ∈ w.ids) :
    (firstRepeated before (ns.map (·.id)) = none ∧ w.addNodes ns = .ok { w with nodes := w.nodes ++ ns }) ∨
      ∃ n, firstRepeated before (ns.map (·.id)) = some n.id ∧
        w.addNodes ns = .error (.node n (.duplicateNode n.id)) := by
  -- On the nodes to come. The check keeps the ids it has seen newest first, so only membership carries over.
  induction ns generalizing before w with
  | nil => exact .inl ⟨rfl, by rw [addNodes, List.append_nil]⟩
  | cons n ns ih =>
    rw [List.map_cons, firstRepeated, addNodes]
    rcases w.addNode_spec n with ⟨hnew, hok⟩ | ⟨hold, herror⟩
    · have hids : ∀ id, id ∈ n.id :: before ↔ id ∈ ids { w with nodes := w.nodes ++ [n] } := by
        intro id
        rw [ids, List.map_append, List.mem_append, List.mem_cons, hbefore, or_comm, List.map_singleton,
          List.mem_singleton, ids]
      rw [if_neg (fun hmem => hnew ((hbefore _).1 hmem)), hok]
      simpa only [List.append_assoc, List.singleton_append] using ih hids
    · rw [if_pos ((hbefore _).2 hold), herror]
      exact .inr ⟨n, rfl, rfl⟩

/-! ## Connections -/

/-- Two workflows with the same nodes and rules whose connections join the same ends in the same order. -/
structure Mirrors (v w : Workflow) : Prop where
  nodes : v.nodes = w.nodes
  rules : v.rules = w.rules
  ends : (v.connections.map fun c => (c.origin, c.target)) = w.connections.map fun c => (c.origin, c.target)

/-- The rules for a connection do not look at the ids of other connections. -/
theorem Mirrors.checkConnection_eq (h : v.Mirrors w) (origin target : String) :
    v.checkConnection origin target = w.checkConnection origin target := by
  have hnode (id : String) : v.node? id = w.node? id := by rw [node?, h.nodes, node?]
  have hjoined : v.hasConnection origin target = w.hasConnection origin target := by
    rw [Bool.eq_iff_iff, hasConnection_eq_true_iff, hasConnection_eq_true_iff, h.ends]
  rw [checkConnection, checkConnection, hnode, hnode, hjoined, h.rules]

/-- Connections are refused for what the check finds wrong with them. Both go on from workflows that are alike, the
graph as it stood before the next connection and the workflow built so far. -/
theorem connectAll_spec {before : List Connection} (rest : List Connection)
    (h : v.Mirrors { w with connections := before }) :
    (w.checkConnections before rest = .ok () ∧
        ∃ u, v.connectAll rest = .ok u ∧ u.Mirrors { w with connections := before ++ rest }) ∨
      ∃ c error, w.checkConnections before rest = .error (.invalidConnection c.id error) ∧
        v.connectAll rest = .error (.connection c error) := by
  -- On the connections to come. The new connection has an id of its own and the same ends.
  induction rest generalizing before v with
  | nil => exact .inl ⟨rfl, v, rfl, by rwa [List.append_nil]⟩
  | cons c rest ih =>
    rw [checkConnections, connectAll, ← h.checkConnection_eq]
    rcases v.connect_spec c.origin c.target with
      ⟨hcheck, d, u, hok, hnodes, hrules, hconnections, horigin, htarget⟩ | ⟨error, hcheck, herror⟩
    · have hnext : u.Mirrors { w with connections := before ++ [c] } := by
        refine ⟨hnodes.trans h.nodes, hrules.trans h.rules, ?_⟩
        rw [hconnections, List.map_append, h.ends, List.map_append, List.map_singleton, List.map_singleton, horigin,
          htarget]
      rw [hcheck, hok]
      simpa only [List.append_assoc, List.singleton_append] using ih hnext
    · rw [hcheck, herror]
      exact .inr ⟨c, error, rfl, rfl⟩

/-! ## The whole -/

/-- What the check says of a workflow, and what becomes of building it. -/
theorem build_spec (hids : (w.connections.map (·.id)).Nodup) :
    (w.checkIntegrity = .ok () ∧ ∃ v, build w.name w.rules w.nodes w.connections = .ok v ∧ v.Mirrors w) ∨
      (∃ n, w.checkIntegrity = .error (.duplicateNode n.id) ∧
        build w.name w.rules w.nodes w.connections = .error (.node n (.duplicateNode n.id))) ∨
      ∃ c error, w.checkIntegrity = .error (.invalidConnection c.id error) ∧
        build w.name w.rules w.nodes w.connections = .error (.connection c error) := by
  have hconnections : firstRepeated [] (w.connections.map (·.id)) = none :=
    firstRepeated_eq_none_iff.2 ⟨hids, by simp⟩
  have hnew : ∀ id, id ∈ ([] : List String) ↔ id ∈ ids { name := w.name, rules := w.rules } := fun id => Iff.rfl
  rcases addNodes_spec w.nodes hnew with ⟨hnodes, hok⟩ | ⟨n, hnodes, herror⟩
  · simp only [checkIntegrity, hnodes, hconnections, build, hok]
    -- With the nodes in place and no connection yet, the two are alike.
    have hstart : Mirrors { name := w.name, nodes := w.nodes, rules := w.rules } { w with connections := [] } :=
      ⟨rfl, rfl, rfl⟩
    exact (connectAll_spec w.connections hstart).imp_right .inr
  · simp only [checkIntegrity, hnodes, build, herror]
    exact .inr (.inl ⟨n, rfl, rfl⟩)

/-- **The check and the operations agree.** Nodes, and connections with distinct ids, pass the integrity check if and
only if they can all be added in turn. The first refusal is of a node whose id is taken or of a connection that breaks
a rule, and the check reports the same id and the same reason. Where all is added, the workflow has the nodes and
joins the pairs of nodes in their order. -/
theorem checkIntegrity_agrees (name : String) (rules : Rules) (ns : List Node) {cs : List Connection}
    (hcs : (cs.map (·.id)).Nodup) :
    let w : Workflow := { ofParts name ns cs with rules := rules }
    ((∃ v, build name rules ns cs = .ok v) ↔ w.checkIntegrity = .ok ()) ∧
      (∀ n error, build name rules ns cs = .error (.node n error) →
        error = .duplicateNode n.id ∧ w.checkIntegrity = .error (.duplicateNode n.id)) ∧
      (∀ c error, build name rules ns cs = .error (.connection c error) →
        w.checkIntegrity = .error (.invalidConnection c.id error)) ∧
      ∀ v, build name rules ns cs = .ok v → v.nodes = ns ∧ v.rules = rules ∧
        (v.connections.map fun c => (c.origin, c.target)) = cs.map fun c => (c.origin, c.target) := by
  intro w
  have hspec := build_spec (w := w) hcs
  have hparts : build w.name w.rules w.nodes w.connections = build name rules ns cs := rfl
  rw [hparts] at hspec
  rcases hspec with ⟨hcheck, v, hbuild, hv⟩ | ⟨n, hcheck, hbuild⟩ | ⟨c, error, hcheck, hbuild⟩
  · simp only [hbuild, hcheck]
    refine ⟨by simp, by simp, by simp, fun u h => ?_⟩
    obtain rfl := Except.ok.inj h
    exact ⟨hv.nodes, hv.rules, hv.ends⟩
  · simp only [hbuild, hcheck]
    refine ⟨by simp, fun m error h => ?_, by simp, by simp⟩
    obtain ⟨rfl, rfl⟩ := BuildError.node.inj (Except.error.inj h)
    exact ⟨rfl, rfl⟩
  · simp only [hbuild, hcheck]
    refine ⟨by simp, by simp, fun d reason h => ?_, by simp⟩
    obtain ⟨rfl, rfl⟩ := BuildError.connection.inj (Except.error.inj h)
    rfl

/-- Two nodes are joined, and joined again by a connection with another id. -/
theorem checkIntegrity_joinedTwice :
    let ns : List Node := [⟨"in", .source, "input", .empty⟩, ⟨"out", .sink, "output", .empty⟩]
    let cs : List Connection := [⟨"a", "in", "out"⟩, ⟨"b", "in", "out"⟩]
    build "twice" {} ns cs = .error (.connection ⟨"b", "in", "out"⟩ (.duplicate "in" "out")) ∧
      checkIntegrity { ofParts "twice" ns cs with rules := {} } =
        .error (.invalidConnection "b" (.duplicate "in" "out")) := by
  intro ns cs
  have hbuild : build "twice" {} ns cs = .error (.connection ⟨"b", "in", "out"⟩ (.duplicate "in" "out")) :=
    rfl
  exact ⟨hbuild, (checkIntegrity_agrees "twice" {} ns (by decide)).2.2.1 _ _ hbuild⟩

end Workflow

end Dataflow
