import Dataflow.Graph.Integrity
import Dataflow.Proofs.Graph.Feeds
/-!
Soundness of a workflow, said without an order.

The integrity check goes through a workflow step by step: it looks at each id with those before it, and at each
connection in the graph as it stood before that one. What it accepts does not depend on that. `Workflow.Sound` says
the same of the workflow as a whole: ids of nodes, ids of connections and pairs of ends are distinct, and every
connection may join its two ends. The main statement is that the check accepts the sound workflows and no others
(`checkIntegrity_eq_ok_iff`).
-/

set_option autoImplicit false

namespace Dataflow.Workflow

variable {w : Workflow}

/-! ## Connections -/

/-- The rules for a connection that its two ends decide, whatever other connections there are. -/
def Joinable (w : Workflow) (origin target : String) : Prop :=
  origin ≠ target ∧ ∃ a b, w.node? origin = some a ∧ w.node? target = some b ∧ b.role ≠ .source ∧ a.role ≠ .sink ∧
    ¬ (w.rules.forbidSourceToSink = true ∧ a.role = .source ∧ b.role = .sink)

/-- A connection may be added where its ends allow it and are not joined yet. -/
theorem checkConnection_eq_ok_iff {origin target : String} :
    w.checkConnection origin target = .ok () ↔
      w.Joinable origin target ∧ w.hasConnection origin target = false := by
  rw [checkConnection, Joinable]
  by_cases hne : origin = target
  · simp [hne]
  rw [if_neg hne]
  cases ha : w.node? origin with
  | none => simp
  | some a =>
    cases hb : w.node? target with
    | none => simp
    | some b =>
      simp only [Option.some.injEq]
      split_ifs with hsource hsink hjoined hrule
      · simp [hsource]
      · simp [hsink]
      · simp [hjoined]
      · simp [hrule]
      · have hfree : w.hasConnection origin target = false := by simpa using hjoined
        exact ⟨fun _ => ⟨⟨hne, a, b, rfl, rfl, hsource, hsink, hrule⟩, hfree⟩, fun _ => rfl⟩

/-- Two ends are joined if some connection has just these ends. -/
theorem hasConnection_eq_true_iff {origin target : String} :
    w.hasConnection origin target = true ↔ (origin, target) ∈ w.connections.map fun c => (c.origin, c.target) := by
  simp [hasConnection, List.mem_map]

/-- The connections checked in turn: each may join its ends, and no two have the same ends. -/
theorem checkConnections_eq_ok_iff {before rest : List Connection} :
    w.checkConnections before rest = .ok () ↔
      (∀ c ∈ rest, w.Joinable c.origin c.target) ∧
        (∀ c ∈ rest, (c.origin, c.target) ∉ before.map fun c => (c.origin, c.target)) ∧
        (rest.map fun c => (c.origin, c.target)).Nodup := by
  induction rest generalizing before with
  | nil => simp [checkConnections]
  | cons c rest ih =>
    rw [checkConnections]
    cases hc : { w with connections := before }.checkConnection c.origin c.target with
    | error reason =>
      refine ⟨fun h => by simp at h, fun ⟨hjoin, hnew, _⟩ => ?_⟩
      have hok : { w with connections := before }.checkConnection c.origin c.target = .ok () := by
        refine checkConnection_eq_ok_iff.2 ⟨hjoin c (List.mem_cons_self ..), ?_⟩
        rw [← Bool.not_eq_true, hasConnection_eq_true_iff]
        exact hnew c (List.mem_cons_self ..)
      rw [hc] at hok
      simp at hok
    | ok u =>
      obtain ⟨hjoin, hfree⟩ := checkConnection_eq_ok_iff.1 hc
      rw [← Bool.not_eq_true, hasConnection_eq_true_iff] at hfree
      -- What is new beside `before` and `c` is what is new beside `before` and differs from `c`.
      simp only [ih, List.forall_mem_cons, List.map_append, List.map_cons, List.map_nil, List.mem_append,
        List.mem_singleton, not_or, List.nodup_cons, List.mem_map, not_exists, not_and]
      constructor
      · rintro ⟨hrest, hnew, hnodup⟩
        exact ⟨⟨hjoin, hrest⟩, ⟨by simpa [List.mem_map] using hfree, fun d hd => (hnew d hd).1⟩,
          fun d hd => (hnew d hd).2, hnodup⟩
      · rintro ⟨⟨-, hrest⟩, ⟨-, hnew⟩, hother, hnodup⟩
        exact ⟨hrest, fun d hd => ⟨hnew d hd, hother d hd⟩, hnodup⟩

/-! ## Repetition -/

/-- A text is found to be repeated where it stands before the list or twice in it. -/
theorem firstRepeated_eq_none_iff {before texts : List String} :
    firstRepeated before texts = none ↔ texts.Nodup ∧ ∀ x ∈ texts, x ∉ before := by
  induction texts generalizing before with
  | nil => simp [firstRepeated]
  | cons x texts ih =>
    rw [firstRepeated]
    split_ifs with hx
    · simp [hx]
    · rw [ih, List.nodup_cons, List.forall_mem_cons]
      simp only [List.mem_cons, not_or]
      constructor
      · rintro ⟨hnodup, hnew⟩
        exact ⟨⟨fun hmem => (hnew x hmem).1 rfl, hnodup⟩, hx, fun y hy => (hnew y hy).2⟩
      · rintro ⟨⟨hnot, hnodup⟩, -, hnew⟩
        exact ⟨hnodup, fun y hy => ⟨fun heq => hnot (heq ▸ hy), hnew y hy⟩⟩

/-! ## The whole -/

/-- What the integrity check asks of a workflow. -/
structure Sound (w : Workflow) : Prop where
  distinctIds : w.DistinctIds
  connectionIds_nodup : (w.connections.map (·.id)).Nodup
  ends_nodup : (w.connections.map fun c => (c.origin, c.target)).Nodup
  joinable : ∀ c ∈ w.connections, w.Joinable c.origin c.target

/-- **Integrity is soundness.** The check accepts a workflow if and only if it is sound. -/
theorem checkIntegrity_eq_ok_iff : w.checkIntegrity = .ok () ↔ w.Sound := by
  rw [checkIntegrity]
  cases hnodes : firstRepeated [] (w.nodes.map (·.id)) with
  | some id =>
    refine ⟨fun h => by simp at h, fun hw => ?_⟩
    have hnone : firstRepeated [] w.ids = none := firstRepeated_eq_none_iff.2 ⟨hw.distinctIds, by simp⟩
    rw [ids, hnodes] at hnone
    simp at hnone
  | none =>
    have hids : w.DistinctIds := (firstRepeated_eq_none_iff.1 hnodes).1
    cases hconnections : firstRepeated [] (w.connections.map (·.id)) with
    | some id =>
      refine ⟨fun h => by simp at h, fun hw => ?_⟩
      have hnone : firstRepeated [] (w.connections.map (·.id)) = none :=
        firstRepeated_eq_none_iff.2 ⟨hw.connectionIds_nodup, by simp⟩
      rw [hconnections] at hnone
      simp at hnone
    | none =>
      have hconnectionIds := (firstRepeated_eq_none_iff.1 hconnections).1
      rw [checkConnections_eq_ok_iff]
      constructor
      · rintro ⟨hjoin, -, hends⟩
        exact ⟨hids, hconnectionIds, hends, hjoin⟩
      · intro hw
        exact ⟨hw.joinable, by simp, hw.ends_nodup⟩

/-! ## Roles

All that a connection asks of its ends is their roles, so soundness outlives every change that keeps these. -/

/-- The role of the node with an id. -/
def role? (w : Workflow) (id : String) : Option Role := (w.node? id).map (·.role)

theorem joinable_iff_role? {origin target : String} : w.Joinable origin target ↔
    origin ≠ target ∧ ∃ a b, w.role? origin = some a ∧ w.role? target = some b ∧ b ≠ .source ∧ a ≠ .sink ∧
      ¬ (w.rules.forbidSourceToSink = true ∧ a = .source ∧ b = .sink) := by
  constructor
  · rintro ⟨hne, m, n, hm, hn, hsource, hsink, hrule⟩
    refine ⟨hne, m.role, n.role, ?_, ?_, hsource, hsink, hrule⟩
    · rw [role?, hm, Option.map_some]
    · rw [role?, hn, Option.map_some]
  · rintro ⟨hne, a, b, ha, hb, hsource, hsink, hrule⟩
    obtain ⟨m, hm, rfl⟩ := Option.map_eq_some_iff.1 ha
    obtain ⟨n, hn, rfl⟩ := Option.map_eq_some_iff.1 hb
    exact ⟨hne, m, n, hm, hn, hsource, hsink, hrule⟩

/-- Roles depend on the ids and roles of the nodes in their order, and on nothing else. -/
theorem role?_congr {v : Workflow}
    (h : v.nodes.map (fun n => (n.id, n.role)) = w.nodes.map fun n => (n.id, n.role)) (id : String) :
    v.role? id = w.role? id := by
  have hfind (u : Workflow) :
      u.role? id = ((u.nodes.map fun n => (n.id, n.role)).find? (·.1 == id)).map (·.2) := by
    rw [role?, node?, List.find?_map, Option.map_map]
    rfl
  rw [hfind, hfind, h]

/-- A connection that may join its ends may do so where these keep their roles and the rules ask no more. -/
theorem Joinable.mono {v : Workflow} {origin target : String} (h : w.Joinable origin target)
    (hrules : v.rules.forbidSourceToSink = true → w.rules.forbidSourceToSink = true)
    (horigin : v.role? origin = w.role? origin) (htarget : v.role? target = w.role? target) :
    v.Joinable origin target := by
  rw [joinable_iff_role?] at h ⊢
  obtain ⟨hne, a, b, ha, hb, hsource, hsink, hrule⟩ := h
  exact ⟨hne, a, b, horigin.trans ha, htarget.trans hb, hsource, hsink, fun ⟨hforbid, hroles⟩ =>
    hrule ⟨hrules hforbid, hroles⟩⟩

namespace Sound

/-- **Soundness goes on** to a workflow that has some of the connections, between nodes of the same roles, under
rules that ask no more. -/
theorem mono {v : Workflow} (hw : w.Sound) (hids : v.DistinctIds) (hconnections : v.connections.Sublist w.connections)
    (hrules : v.rules.forbidSourceToSink = true → w.rules.forbidSourceToSink = true)
    (hroles : ∀ c ∈ v.connections, v.role? c.origin = w.role? c.origin ∧ v.role? c.target = w.role? c.target) :
    v.Sound where
  distinctIds := hids
  connectionIds_nodup := hw.connectionIds_nodup.sublist (hconnections.map _)
  ends_nodup := hw.ends_nodup.sublist (hconnections.map _)
  joinable c hc :=
    (hw.joinable c (hconnections.subset hc)).mono hrules (hroles c hc).1 (hroles c hc).2

/-- In a sound workflow both ends of a connection are nodes of it. -/
theorem feeds (hw : w.Sound) {c : Connection} (hc : c ∈ w.connections) : w.Feeds c.origin c.target := by
  obtain ⟨-, a, b, ha, hb, -⟩ := hw.joinable c hc
  obtain ⟨hamem, haid⟩ := of_node?_eq_some ha
  obtain ⟨hbmem, hbid⟩ := of_node?_eq_some hb
  exact ⟨haid ▸ id_mem_ids hamem, hbid ▸ id_mem_ids hbmem, c, hc, rfl, rfl⟩

/-- No connection of a sound workflow leads to a source. -/
theorem inbound_source (hw : w.Sound) {n : Node} (hn : n ∈ w.nodes) (hrole : n.role = .source) :
    w.inbound n.id = [] := by
  refine List.filter_eq_nil_iff.2 fun c hc htarget => ?_
  obtain ⟨-, -, b, -, hb, hsource, -⟩ := hw.joinable c hc
  have hid : c.target = n.id := by simpa using htarget
  rw [hid, hw.distinctIds.node?_eq_some_iff.2 ⟨hn, rfl⟩] at hb
  exact hsource (Option.some.inj hb ▸ hrole)

/-- No connection of a sound workflow comes from a sink. -/
theorem origin_ne_sink (hw : w.Sound) {n : Node} (hn : n ∈ w.nodes) (hrole : n.role = .sink) {c : Connection}
    (hc : c ∈ w.connections) : c.origin ≠ n.id := by
  intro hid
  obtain ⟨-, a, -, ha, -, -, hsink, -⟩ := hw.joinable c hc
  rw [hid, hw.distinctIds.node?_eq_some_iff.2 ⟨hn, rfl⟩] at ha
  exact hsink (Option.some.inj ha ▸ hrole)

end Sound

end Dataflow.Workflow
