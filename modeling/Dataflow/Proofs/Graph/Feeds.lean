import Dataflow.Graph.Basic
import Mathlib.Data.List.Nodup
import Mathlib.Order.WellFounded
/-!
The graph of a workflow as a relation between ids.

`Workflow.Feeds` is what the connections say, `Workflow.Acyclic` that nothing feeds into itself along any number of
them. Neither looks at the order of nodes or connections, which is what makes them the measure for everything that
does. An order in which every node comes after those that feed it shows that there is no cycle, and it is the
ground of inductions along connections (`wellFounded_feeds_of_before`).
-/

set_option autoImplicit false

namespace Dataflow

/-! ## Ids -/

namespace Workflow

/-- The ids of the nodes. -/
def ids (w : Workflow) : List String := w.nodes.map (·.id)

/-- Different nodes have different ids. -/
def DistinctIds (w : Workflow) : Prop := w.ids.Nodup

instance (w : Workflow) : Decidable w.DistinctIds := inferInstanceAs (Decidable w.ids.Nodup)

variable {w : Workflow}

theorem mem_ids {id : String} : id ∈ w.ids ↔ ∃ n ∈ w.nodes, n.id = id := List.mem_map

theorem id_mem_ids {n : Node} (hn : n ∈ w.nodes) : n.id ∈ w.ids := mem_ids.2 ⟨n, hn, rfl⟩

/-- What a look-up finds is a node with the id that was asked for. -/
theorem of_node?_eq_some {id : String} {n : Node} (h : w.node? id = some n) : n ∈ w.nodes ∧ n.id = id :=
  ⟨List.mem_of_find?_eq_some h, by simpa using List.find?_some h⟩

theorem node?_isSome {id : String} (h : id ∈ w.ids) : ∃ n, w.node? id = some n := by
  obtain ⟨n, hn, hid⟩ := mem_ids.1 h
  refine Option.isSome_iff_exists.1 (List.find?_isSome.2 ⟨n, hn, ?_⟩)
  simpa using hid

/-- With distinct ids a node is what its id is looked up to. -/
theorem DistinctIds.eq_of_id_eq (hw : w.DistinctIds) {m n : Node} (hm : m ∈ w.nodes) (hn : n ∈ w.nodes)
    (h : m.id = n.id) : m = n := List.inj_on_of_nodup_map hw hm hn h

theorem DistinctIds.node?_eq_some_iff (hw : w.DistinctIds) {id : String} {n : Node} :
    w.node? id = some n ↔ n ∈ w.nodes ∧ n.id = id := by
  refine ⟨of_node?_eq_some, fun ⟨hn, hid⟩ => ?_⟩
  obtain ⟨m, hm⟩ := node?_isSome (hid ▸ id_mem_ids hn)
  obtain ⟨hmem, hmid⟩ := of_node?_eq_some hm
  rw [hm, hw.eq_of_id_eq hmem hn (hmid.trans hid.symm)]

end Workflow

/-! ## Connections as a relation -/

namespace Workflow

/-- A connection leads from one node of the workflow to another. Connections with a missing end say nothing. -/
def Feeds (w : Workflow) (a b : String) : Prop :=
  a ∈ w.ids ∧ b ∈ w.ids ∧ ∃ c ∈ w.connections, c.origin = a ∧ c.target = b

/-- No node can be reached from itself along connections. -/
def Acyclic (w : Workflow) : Prop := ∀ id, ¬ Relation.TransGen w.Feeds id id

end Workflow

/-! ## Orders -/

/-- In a list, `x` stands somewhere before a place of `y`. -/
def Before {α : Type*} (l : List α) (x y : α) : Prop := ∃ front back, l = front ++ y :: back ∧ x ∈ front

/-- Without repetition, what stands before is at an earlier place. -/
theorem Before.idxOf_lt {α : Type*} [DecidableEq α] {l : List α} {x y : α} (h : Before l x y) (hl : l.Nodup) :
    l.idxOf x < l.idxOf y := by
  obtain ⟨front, back, rfl, hx⟩ := h
  have hy : y ∉ front := fun hy => (List.nodup_append.1 hl).2.2 y hy y (List.mem_cons_self ..) rfl
  rw [List.idxOf_append_of_mem hx, List.idxOf_append_of_notMem hy, List.idxOf_cons_self]
  have := List.idxOf_lt_length_of_mem hx
  omega

/-- Without repetition, whatever is in front of a place of `y` is all that stands before `y`. -/
theorem Before.mem_front {α : Type*} {x y : α} {front back : List α} (h : Before (front ++ y :: back) x y)
    (hl : (front ++ y :: back).Nodup) : x ∈ front := by
  classical
  have hlt := h.idxOf_lt hl
  have hy : y ∉ front := fun hy => (List.nodup_append.1 hl).2.2 y hy y (List.mem_cons_self ..) rfl
  by_contra hx
  rw [List.idxOf_append_of_notMem hy, List.idxOf_append_of_notMem hx, List.idxOf_cons_self] at hlt
  omega

namespace Workflow

variable {w : Workflow} {order : List String}

/-- Where an order respects the connections, going back along them comes to an end. -/
theorem wellFounded_feeds_of_before (hnodup : order.Nodup) (h : ∀ a b, w.Feeds a b → Before order a b) :
    WellFounded w.Feeds :=
  Subrelation.wf (fun {a b} hab => (h a b hab).idxOf_lt hnodup) (measure order.idxOf).wf

theorem acyclic_of_before (hnodup : order.Nodup) (h : ∀ a b, w.Feeds a b → Before order a b) : w.Acyclic :=
  fun id hid => (wellFounded_feeds_of_before hnodup h).transGen.irrefl.irrefl id hid

end Workflow

end Dataflow
