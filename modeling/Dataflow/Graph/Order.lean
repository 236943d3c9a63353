import Dataflow.Graph.Basic
/-!
Execution order: every node after the nodes it takes from.

The order is that of a depth-first search from each node in turn, which looks at a node's predecessors in the
order of their connections and lists a node once all of them are listed. The search keeps its path in a list of
frames and not in the call stack, so depth costs nothing but memory. A predecessor that is still on the path
closes a cycle, and the path from there is the cycle.

Nodes are known by their positions. Where an id stands for several nodes, connections belong to the last one, and
a connection without both ends belongs to none.
-/

namespace Dataflow

/-- A cycle in the direction of the connections; it begins and ends with `node`. -/
structure Cycle where
  node : String
  path : List String
deriving DecidableEq

namespace Order

/-! ## The graph of positions -/

/-- The position of the last node with an id. -/
def position? (nodes : List Node) (id : String) : Option Nat :=
  nodes.zipIdx.foldl (fun found entry => if entry.1.id = id then some entry.2 else found) none

/-- The connections with both ends, as pairs of positions. -/
def edges (w : Workflow) : List (Nat × Nat) :=
  w.connections.filterMap fun c => do
    let origin ← position? w.nodes c.origin
    let target ← position? w.nodes c.target
    some (origin, target)

/-- The positions that a position takes from. -/
def predecessors (edges : List (Nat × Nat)) (position : Nat) : List Nat :=
  edges.filterMap fun e => if e.2 = position then some e.1 else none

/-! ## The search -/

inductive Mark where
  | unvisited
  /-- On the path. -/
  | inProgress
  | finished
deriving DecidableEq, Inhabited

/-- A node on the path, with the predecessors not looked at yet. -/
structure Frame where
  node : Nat
  todo : List Nat

structure Search where
  marks : Array Mark
  /-- The path, deepest node first. -/
  path : List Frame
  /-- The finished nodes, latest first. -/
  done : List Nat

/-- A list up to and with the first `x`. -/
def upTo (x : Nat) : List Nat → List Nat
  | [] => []
  | y :: ys => if y = x then [y] else y :: upTo x ys

/-- What a round of the search comes to. -/
inductive Round where
  /-- The path is empty. -/
  | finished
  /-- The positions along a cycle, the first of them again at the end. -/
  | cycle (positions : List Nat)
  | next (s : Search)

/-- One round: it finishes a node, looks at one predecessor for good, or takes an unvisited node onto the path. -/
def Search.round (predecessors : Nat → List Nat) (s : Search) : Round :=
  match s.path with
  | [] => .finished
  | ⟨node, []⟩ :: above => .next ⟨s.marks.setIfInBounds node .finished, above, node :: s.done⟩
  | ⟨node, p :: todo⟩ :: above =>
    match s.marks[p]? with
    | some .unvisited =>
      .next ⟨s.marks.setIfInBounds p .inProgress, ⟨p, predecessors p⟩ :: ⟨node, todo⟩ :: above, s.done⟩
    | some .inProgress => .cycle (p :: upTo p (node :: above.map (·.node)))
    | some .finished | none => .next ⟨s.marks, ⟨node, todo⟩ :: above, s.done⟩

/-! ### Its end -/

/-- What is still to be looked at on a path, and the path itself. -/
def pending : List Frame → Nat
  | [] => 0
  | f :: path => f.todo.length + 1 + pending path

/-- What is left to do: the unvisited nodes, and then the path. -/
def Search.left (s : Search) : Nat × Nat := (s.marks.count .unvisited, pending s.path)

theorem count_set_le {marks : Array Mark} {i : Nat} {m : Mark} (hm : m ≠ .unvisited) :
    (marks.setIfInBounds i m).count .unvisited ≤ marks.count .unvisited := by
  by_cases h : i < marks.size
  · have hmark : (m == Mark.unvisited) = false := by simpa using hm
    rw [Array.setIfInBounds, dif_pos h, Array.count_set h]
    simp only [hmark, Bool.false_eq_true, if_false]
    omega
  · exact Nat.le_of_eq (by rw [Array.setIfInBounds, dif_neg h])

theorem count_set_lt {marks : Array Mark} {i : Nat} {m : Mark} (hm : m ≠ .unvisited)
    (hi : marks[i]? = some .unvisited) :
    (marks.setIfInBounds i m).count .unvisited < marks.count .unvisited := by
  obtain ⟨h, hget⟩ := Array.getElem?_eq_some_iff.1 hi
  have hpos : 0 < marks.count .unvisited :=
    Array.count_pos_iff.2 (hget ▸ Array.getElem_mem h)
  have hmark : (m == Mark.unvisited) = false := by simpa using hm
  rw [Array.setIfInBounds, dif_pos h, Array.count_set h]
  simp only [hmark, hget, beq_self_eq_true, Bool.false_eq_true, if_true, if_false]
  omega

/-- Every round leaves less to do. -/
theorem Search.round_decreases {predecessors : Nat → List Nat} {s t : Search}
    (h : s.round predecessors = .next t) : Prod.Lex (· < ·) (· < ·) t.left s.left := by
  obtain ⟨marks, path, done⟩ := s
  match path with
  | [] => simp [Search.round] at h
  | ⟨node, []⟩ :: above =>
    obtain rfl : _ = t := by simpa [Search.round] using h
    have hle : (marks.setIfInBounds node .finished).count .unvisited ≤ marks.count .unvisited :=
      count_set_le (by decide)
    rcases Nat.lt_or_eq_of_le hle with hlt | heq
    · exact .left _ _ hlt
    · simp only [Search.left, heq]
      exact .right _ (by simp only [pending]; omega)
  | ⟨node, p :: todo⟩ :: above =>
    simp only [Search.round] at h
    split at h
    · rename_i hp
      obtain rfl : _ = t := by simpa using h
      exact .left _ _ (count_set_lt (by decide) hp)
    · simp at h
    · obtain rfl : _ = t := by simpa using h
      exact .right _ (by simp only [pending, List.length_cons]; omega)
    · obtain rfl : _ = t := by simpa using h
      exact .right _ (by simp only [pending, List.length_cons]; omega)

set_option linter.unusedVariables false in
/-- Follows the path until it is empty or closes a cycle. -/
def Search.run (predecessors : Nat → List Nat) (s : Search) : Except (List Nat) Search :=
  match h : s.round predecessors with
  | .finished => .ok s
  | .cycle positions => .error positions
  | .next t => run predecessors t
termination_by s.left
decreasing_by exact Search.round_decreases h

/-- Searches from one node, unless it has been listed already. -/
def Search.visit (predecessors : Nat → List Nat) (s : Search) (root : Nat) : Except (List Nat) Search :=
  if s.marks[root]? = some .unvisited then
    Search.run predecessors
      ⟨s.marks.setIfInBounds root .inProgress, [⟨root, predecessors root⟩], s.done⟩
  else .ok s

/-- The positions in execution order, or the positions along a cycle. -/
def positions (count : Nat) (predecessors : Nat → List Nat) : Except (List Nat) (List Nat) :=
  let start : Search := ⟨Array.replicate count .unvisited, [], []⟩
  ((List.range count).foldlM (Search.visit predecessors) start).map (·.done.reverse)

end Order

/-- The ids of all nodes in execution order. -/
def Workflow.executionOrder (w : Workflow) : Except Cycle (List String) :=
  let ids (positions : List Nat) : List String := positions.filterMap fun i => (w.nodes[i]?).map (·.id)
  let edges := Order.edges w
  let table := (Array.range w.nodes.length).map (Order.predecessors edges)
  match Order.positions w.nodes.length fun i => (table[i]?).getD [] with
  | .ok order => .ok (ids order)
  | .error cycle =>
    let path := ids cycle
    .error ⟨path.headD "", path⟩

end Dataflow
