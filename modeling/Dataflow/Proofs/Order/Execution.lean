import Dataflow.Proofs.Graph.Feeds
import Dataflow.Proofs.Order.Search
import Mathlib.Data.List.Permutation
/-!
The execution order of a workflow, as an order of ids.

The search knows positions only. Here its answer is read back as ids: what it settles is an order in which every
node comes after those that feed it, and what it reports is a cycle of connections (`Cycle.Closes`). The two cannot
both exist, so the search finds an order exactly where there is no cycle.

Most of the work is in going between ids and positions. It needs distinct ids in one direction only: a position
stands for one id whatever the workflow, but an id for one position only where no other node has it.
-/

set_option autoImplicit false

namespace Dataflow

/-! ## Ids and positions -/

namespace Order

theorem position?_append (nodes : List Node) (n : Node) (id : String) :
    position? (nodes ++ [n]) id = if n.id = id then some nodes.length else position? nodes id := by
  simp [position?, List.zipIdx_append, List.foldl_append]

/-- The position of an id holds a node with that id. -/
theorem getElem?_of_position? {nodes : List Node} {id : String} {i : Nat} (h : position? nodes id = some i) :
    (nodes.map (·.id))[i]? = some id := by
  induction nodes using List.reverseRecOn with
  | nil => simp [position?] at h
  | append_singleton nodes n ih =>
    rw [position?_append] at h
    split at h
    · obtain rfl : nodes.length = i := by simpa using h
      simpa using ‹n.id = id›
    · have hi := ih h
      have hlt : i < (nodes.map (·.id)).length := (List.getElem?_eq_some_iff.1 hi).1
      rw [List.map_append, List.getElem?_append_left hlt, hi]

theorem position?_isSome {nodes : List Node} {id : String} (h : id ∈ nodes.map (·.id)) :
    ∃ i, position? nodes id = some i := by
  induction nodes using List.reverseRecOn with
  | nil => simp at h
  | append_singleton nodes n ih =>
    rw [position?_append]
    split
    · exact ⟨nodes.length, rfl⟩
    · rename_i hne
      rw [List.map_append, List.mem_append] at h
      rcases h with h | h
      · exact ih h
      · have hid : id = n.id := by simpa using h
        exact absurd hid.symm hne

/-- A position that a position takes from is the origin of a connection to it. -/
theorem mem_predecessors_edges {w : Workflow} {p i : Nat} :
    p ∈ predecessors (edges w) i ↔
      ∃ c ∈ w.connections, position? w.nodes c.origin = some p ∧ position? w.nodes c.target = some i := by
  simp only [predecessors, edges, List.mem_filterMap, Prod.exists]
  constructor
  · rintro ⟨q, j, ⟨c, hc, hedge⟩, hpick⟩
    obtain ⟨q', hq', j', hj', hpair⟩ : ∃ q', position? w.nodes c.origin = some q' ∧
        ∃ j', position? w.nodes c.target = some j' ∧ (q', j') = (q, j) := by
      simpa [Option.bind_eq_some_iff] using hedge
    obtain ⟨rfl, rfl⟩ := Prod.mk.inj hpair
    split at hpick
    · obtain rfl : q' = p := by simpa using hpick
      exact ⟨c, hc, hq', by rwa [← ‹j' = i›]⟩
    · simp at hpick
  · rintro ⟨c, hc, hp, hi⟩
    exact ⟨p, i, ⟨c, hc, by simp [hp, hi]⟩, by simp⟩

end Order

namespace Workflow

variable {w : Workflow}

/-- The positions that a position of the workflow takes from. -/
def takesFrom (w : Workflow) (i : Nat) : List Nat :=
  if i < w.nodes.length then Order.predecessors (Order.edges w) i else []

/-- The ids at some positions. -/
def idsAt (w : Workflow) (positions : List Nat) : List String := positions.filterMap (w.ids[·]?)

/-- The execution order is what the search over positions finds, read as ids. -/
theorem executionOrder_eq (w : Workflow) :
    w.executionOrder = match Order.positions w.nodes.length w.takesFrom with
      | .ok order => .ok (w.idsAt order)
      | .error cycle => .error ⟨(w.idsAt cycle).headD "", w.idsAt cycle⟩ := by
  have htable : (fun i => (((Array.range w.nodes.length).map (Order.predecessors (Order.edges w)))[i]?).getD [])
      = w.takesFrom := by
    funext i
    by_cases hi : i < w.nodes.length
    · simp [takesFrom, hi]
    · simp [takesFrom, hi]
  have hids (positions : List Nat) : (positions.filterMap fun i => (w.nodes[i]?).map (·.id)) = w.idsAt positions := by
    simp [idsAt, ids]
  simp only [executionOrder, htable]
  cases Order.positions w.nodes.length w.takesFrom with
  | ok order => exact congrArg Except.ok (hids order)
  | error cycle =>
    exact congrArg (fun ids : List String => Except.error (⟨ids.headD "", ids⟩ : Cycle)) (hids cycle)

theorem takesFrom_lt (w : Workflow) (i : Nat) : ∀ p ∈ w.takesFrom i, p < w.nodes.length := by
  intro p hp
  rw [takesFrom] at hp
  split at hp
  · obtain ⟨c, -, hc, -⟩ := Order.mem_predecessors_edges.1 hp
    have := (List.getElem?_eq_some_iff.1 (Order.getElem?_of_position? hc)).1
    simpa using this
  · simp at hp

/-- Positions are linked where their ids are joined. -/
theorem feeds_of_mem_takesFrom {p i : Nat} (h : p ∈ w.takesFrom i) :
    ∃ a b, w.ids[p]? = some a ∧ w.ids[i]? = some b ∧ w.Feeds a b := by
  rw [takesFrom] at h
  split at h
  · obtain ⟨c, hc, hp, hi⟩ := Order.mem_predecessors_edges.1 h
    have ha : w.ids[p]? = some c.origin := Order.getElem?_of_position? hp
    have hb : w.ids[i]? = some c.target := Order.getElem?_of_position? hi
    exact ⟨_, _, ha, hb, List.mem_of_getElem? ha, List.mem_of_getElem? hb, c, hc, rfl, rfl⟩
  · simp at h

/-- With distinct ids the position of an id is where it stands. -/
theorem DistinctIds.position?_eq (hw : w.DistinctIds) {id : String} {i : Nat} (h : w.ids[i]? = some id) :
    Order.position? w.nodes id = some i := by
  obtain ⟨j, hj⟩ := Order.position?_isSome (List.mem_of_getElem? h)
  have hlt : j < w.ids.length := (List.getElem?_eq_some_iff.1 (Order.getElem?_of_position? hj)).1
  have hji : j = i := (List.getElem?_inj hlt hw).1 ((Order.getElem?_of_position? hj).trans h.symm)
  rw [hj, hji]

/-- With distinct ids, joined ids are linked at their positions. -/
theorem DistinctIds.mem_takesFrom (hw : w.DistinctIds) {a b : String} {p i : Nat} (hab : w.Feeds a b)
    (hp : w.ids[p]? = some a) (hi : w.ids[i]? = some b) : p ∈ w.takesFrom i := by
  obtain ⟨-, -, c, hc, rfl, rfl⟩ := hab
  have hlt : i < w.nodes.length := by simpa [ids] using (List.getElem?_eq_some_iff.1 hi).1
  rw [takesFrom, if_pos hlt]
  exact Order.mem_predecessors_edges.2 ⟨c, hc, hw.position?_eq hp, hw.position?_eq hi⟩

/-- Where all positions exist, reading their ids is a map. -/
theorem idsAt_eq_map {positions : List Nat} (h : ∀ i ∈ positions, i < w.nodes.length) :
    w.idsAt positions = positions.map fun i => w.ids.getD i "" := by
  refine List.filterMap_eq_map_iff_forall_eq_some.2 fun i hi => ?_
  have hlt : i < w.ids.length := by simpa [ids] using h i hi
  rw [List.getD_eq_getElem?_getD, List.getElem?_eq_getElem hlt, Option.getD_some]

theorem idsAt_range (w : Workflow) : w.idsAt (List.range w.nodes.length) = w.ids := by
  rw [idsAt_eq_map fun i hi => List.mem_range.1 hi]
  refine List.ext_getElem (by simp [ids]) fun i _ hi => ?_
  rw [List.getElem_map, List.getElem_range, List.getD_eq_getElem?_getD, List.getElem?_eq_getElem hi,
    Option.getD_some]

end Workflow

/-! ## Orders and cycles of ids -/

namespace Order

/-- In a settled list, what a position takes from is behind each of its places. -/
theorem Settled.mem {predecessors : Nat → List Nat} {later earlier : List Nat} {x p : Nat}
    (h : Settled predecessors (later ++ x :: earlier)) (hp : p ∈ predecessors x) : p ∈ earlier := by
  induction later with
  | nil => exact h.1 p hp
  | cons y later ih => exact ih h.2

end Order

/-- A cycle as a workflow has it: from a node along connections back to it, with no node twice on the way. -/
structure Cycle.Closes (c : Cycle) (w : Workflow) : Prop where
  two_le_length : 2 ≤ c.path.length
  starts : c.path.head? = some c.node
  ends : c.path.getLast? = some c.node
  connected : c.path.IsChain w.Feeds
  nodup : c.path.dropLast.Nodup

/-- A walk back to its start is a cycle. -/
theorem Order.ClosedWalk.closes {w : Workflow} {x : String} {path : List String}
    (h : ClosedWalk w.Feeds x path) : Cycle.Closes ⟨x, path⟩ w := by
  obtain ⟨inner, rfl, hnodup, hchain⟩ := h
  refine ⟨by simp, rfl, by simp [List.getLast?_cons], hchain, ?_⟩
  rw [← List.cons_append, List.dropLast_concat]
  exact hnodup

namespace Workflow

variable {w : Workflow}

/-- A settled list of all positions, read as ids, has every node after those that feed it. -/
theorem DistinctIds.before_of_settled (hw : w.DistinctIds) {order : List Nat}
    (hperm : order.Perm (List.range w.nodes.length)) (hsettled : Order.Settled w.takesFrom order.reverse)
    {a b : String} (hab : w.Feeds a b) : Before (w.idsAt order) a b := by
  obtain ⟨p, hp⟩ := List.getElem?_of_mem hab.1
  obtain ⟨i, hi⟩ := List.getElem?_of_mem hab.2.1
  have hlt : i < w.nodes.length := by simpa [ids] using (List.getElem?_eq_some_iff.1 hi).1
  obtain ⟨front, back, rfl⟩ := List.append_of_mem (hperm.mem_iff.2 (List.mem_range.2 hlt))
  -- The search lists latest first, so behind a place of `i` is what the order has in front of it.
  have hfront : p ∈ front.reverse := by
    rw [List.reverse_append, List.reverse_cons, List.append_assoc] at hsettled
    exact hsettled.mem (hw.mem_takesFrom hab hp hi)
  refine ⟨w.idsAt front, w.idsAt back, by simp [idsAt, List.filterMap_append, hi], ?_⟩
  exact List.mem_filterMap.2 ⟨p, List.mem_reverse.1 hfront, hp⟩

/-- A closed walk of positions, read as ids, is a closed walk along connections. -/
theorem DistinctIds.closedWalk_idsAt (hw : w.DistinctIds) {x : Nat} {walk : List Nat}
    (h : Order.ClosedWalk (fun a b => a ∈ w.takesFrom b) x walk) (hlt : ∀ i ∈ walk, i < w.nodes.length) :
    Order.ClosedWalk w.Feeds ((w.idsAt walk).headD "") (w.idsAt walk) := by
  rw [idsAt_eq_map hlt]
  obtain ⟨inner, rfl, hnodup, hchain⟩ := h
  refine ⟨inner.map fun i => w.ids.getD i "", by simp, ?_, ?_⟩
  · rw [List.map_cons, List.headD_cons, ← List.map_cons (f := fun i => w.ids.getD i "")]
    refine (List.nodup_map_iff_inj_on hnodup).2 fun i hi j hj hij => ?_
    have hin {k : Nat} (hk : k ∈ x :: inner) : k < w.ids.length := by
      have : k ∈ x :: (inner ++ [x]) := by
        rw [← List.cons_append]
        exact List.mem_append_left _ hk
      simpa [ids] using hlt k this
    exact (List.getD_inj (hin hi) (hin hj) hw).1 hij
  · refine List.isChain_map_of_isChain (fun i => w.ids.getD i "") (fun i j hij => ?_) hchain
    obtain ⟨a, b, ha, hb, hab⟩ := feeds_of_mem_takesFrom hij
    simpa [List.getD_eq_getElem?_getD, ha, hb] using hab

/-- **An order that is found is right.** With distinct ids it lists every node once, after those that feed it. -/
theorem DistinctIds.order_spec (hw : w.DistinctIds) {order : List String} (h : w.executionOrder = .ok order) :
    order.Perm w.ids ∧ ∀ a b, w.Feeds a b → Before order a b := by
  have hsearch := Order.positions_spec w.takesFrom_lt
  rw [executionOrder_eq] at h
  cases hpositions : Order.positions w.nodes.length w.takesFrom with
  | error cycle =>
    rw [hpositions] at h
    simp at h
  | ok positions =>
    rw [hpositions] at h hsearch
    obtain rfl := Except.ok.inj h
    obtain ⟨hperm, hsettled⟩ := hsearch
    refine ⟨?_, fun a b hab => hw.before_of_settled hperm hsettled hab⟩
    rw [← w.idsAt_range]
    exact hperm.filterMap _

/-- **A cycle that is reported is one.** -/
theorem DistinctIds.cycle_spec (hw : w.DistinctIds) {c : Cycle} (h : w.executionOrder = .error c) :
    c.Closes w ∧ ¬ w.Acyclic := by
  have hsearch := Order.positions_spec w.takesFrom_lt
  rw [executionOrder_eq] at h
  cases hpositions : Order.positions w.nodes.length w.takesFrom with
  | ok positions =>
    rw [hpositions] at h
    simp at h
  | error positions =>
    rw [hpositions] at h hsearch
    obtain rfl := Except.error.inj h
    obtain ⟨⟨x, hwalk⟩, hlt⟩ := hsearch
    have hids := hw.closedWalk_idsAt hwalk hlt
    exact ⟨hids.closes, fun hacyclic => hacyclic _ hids.transGen⟩

theorem DistinctIds.acyclic_of_order (hw : w.DistinctIds) {order : List String}
    (h : w.executionOrder = .ok order) : w.Acyclic := by
  obtain ⟨hperm, hbefore⟩ := hw.order_spec h
  exact acyclic_of_before (hperm.nodup_iff.2 hw) hbefore

/-- Where there is no cycle, an order is found. -/
theorem DistinctIds.exists_order (hw : w.DistinctIds) (hacyclic : w.Acyclic) :
    ∃ order, w.executionOrder = .ok order := by
  cases h : w.executionOrder with
  | ok order => exact ⟨order, rfl⟩
  | error c => exact absurd hacyclic (hw.cycle_spec h).2

/-- Where there is no cycle, going back along connections comes to an end. -/
theorem DistinctIds.wellFounded_feeds (hw : w.DistinctIds) (hacyclic : w.Acyclic) : WellFounded w.Feeds := by
  obtain ⟨order, h⟩ := hw.exists_order hacyclic
  obtain ⟨hperm, hbefore⟩ := hw.order_spec h
  exact wellFounded_feeds_of_before (hperm.nodup_iff.2 hw) hbefore

/-- **The search for an order is sound and complete.** It finds one exactly where there is no cycle, and what it
finds is an execution order; where there is a cycle, it reports one. Connections without both ends are ignored. -/
theorem DistinctIds.executionOrder_spec (hw : w.DistinctIds) :
    ((∃ order, w.executionOrder = .ok order) ↔ w.Acyclic) ∧
      (∀ order, w.executionOrder = .ok order → order.Perm w.ids ∧
        ∀ c ∈ w.connections, c.origin ∈ w.ids → c.target ∈ w.ids → Before order c.origin c.target) ∧
      (¬ w.Acyclic → ∃ c, w.executionOrder = .error c ∧ c.Closes w) := by
  refine ⟨⟨fun ⟨_, h⟩ => hw.acyclic_of_order h, hw.exists_order⟩, fun order h => ?_, fun hcyclic => ?_⟩
  · obtain ⟨hperm, hbefore⟩ := hw.order_spec h
    exact ⟨hperm, fun c hc horigin htarget => hbefore _ _ ⟨horigin, htarget, c, hc, rfl, rfl⟩⟩
  · cases h : w.executionOrder with
    | ok order => exact absurd (hw.acyclic_of_order h) hcyclic
    | error c => exact ⟨c, rfl, (hw.cycle_spec h).1⟩

/-- Three nodes in a ring, and a connection to a node that is not there. -/
def ring : Workflow :=
  .ofParts "ring" (["x", "y", "z"].map fun id => ⟨id, .transform, "trim", .empty⟩)
    [⟨"1", "x", "y"⟩, ⟨"2", "y", "z"⟩, ⟨"3", "z", "x"⟩, ⟨"4", "z", "gone"⟩]

theorem executionOrder_ring : ring.DistinctIds ∧ ¬ ring.Acyclic ∧
    ring.executionOrder = .error ⟨"x", ["x", "y", "z", "x"]⟩ ∧ Cycle.Closes ⟨"x", ["x", "y", "z", "x"]⟩ ring := by
  have hids : ring.DistinctIds := by decide
  have horder : ring.executionOrder = .error ⟨"x", ["x", "y", "z", "x"]⟩ := by cbv
  have hxy : ring.Feeds "x" "y" := ⟨by decide, by decide, ⟨"1", "x", "y"⟩, by decide, rfl, rfl⟩
  have hyz : ring.Feeds "y" "z" := ⟨by decide, by decide, ⟨"2", "y", "z"⟩, by decide, rfl, rfl⟩
  have hzx : ring.Feeds "z" "x" := ⟨by decide, by decide, ⟨"3", "z", "x"⟩, by decide, rfl, rfl⟩
  have hcyclic : ¬ ring.Acyclic := fun h => h "x" (((Relation.TransGen.single hxy).tail hyz).tail hzx)
  obtain ⟨c, hc, hcloses⟩ := (DistinctIds.executionOrder_spec hids).2.2 hcyclic
  obtain rfl := Except.error.inj (horder.symm.trans hc)
  exact ⟨hids, hcyclic, horder, hcloses⟩

end Workflow

end Dataflow
