import Dataflow.Proofs.Order.Execution
/-!
The execution order as a recursion.

Written down plainly, the search is two functions that call each other: to visit a node is to visit all that feeds
it and then to list it, and the path is what the calls wait for. Here that recursion is defined over ids, straight
from the nodes and connections of a workflow and without positions, marks or frames (`Workflow.depthFirstOrder`).
The main statement is that the search with its own path of frames comes to the same, the order as well as the cycle
that it reports (`Workflow.DistinctIds.executionOrder_eq_depthFirstOrder`).

What ties the two together is what a state of the search has still to do (`Workflow.resume`): each frame is a call
that waits, and what it has not looked at yet is the rest of the list that the call goes through. A round of the
search leaves that unchanged.
-/

set_option autoImplicit false

namespace Dataflow

/-! ## The recursion -/

namespace Workflow

/-- Where the connections into a node come from, oldest first. Some of it may be no node. -/
def origins (w : Workflow) (id : String) : List String := (w.inbound id).map (·.origin)

/-- How many nodes are not on a path. -/
def offPath (w : Workflow) (path : List String) : Nat := (w.ids.filter (· ∉ path)).length

theorem offPath_cons_lt {w : Workflow} {path : List String} {id : String} (hid : id ∈ w.ids) (hoff : id ∉ path) :
    w.offPath (id :: path) < w.offPath path := by
  have hfilter : w.ids.filter (· ∉ id :: path) = (w.ids.filter (· ∉ path)).filter (· ≠ id) := by
    rw [List.filter_filter]
    refine List.filter_congr fun a _ => ?_
    simp
  have hmem : id ∈ w.ids.filter (· ∉ path) := by simp [hid, hoff]
  rw [offPath, offPath, hfilter, List.length_filter_lt_length_iff_exists]
  exact ⟨id, hmem, by simp⟩

set_option linter.unusedVariables false in
mutual

/-- Lists a node behind all that feeds it, unless it is listed already; what is no node is passed over. The path
holds the nodes that wait for this one, the latest first. A node on it closes a cycle, which goes from the node to the
latest one and along the path back to the node. -/
def visit (w : Workflow) (path listed : List String) (id : String) : Except Cycle (List String) :=
  if hid : id ∈ w.ids then
    if id ∈ listed then .ok listed
    else if hpath : id ∈ path then .error ⟨id, id :: (path.takeWhile (· ≠ id) ++ [id])⟩
    else do
      let before ← visitAll w (id :: path) listed (w.origins id)
      return before ++ [id]
  else .ok listed
termination_by (w.offPath path, 0)
decreasing_by exact .left _ _ (offPath_cons_lt hid hpath)

/-- Visits one after the other. -/
def visitAll (w : Workflow) (path listed : List String) : List String → Except Cycle (List String)
  | [] => .ok listed
  | id :: ids => do
    let listed ← visit w path listed id
    visitAll w path listed ids
termination_by ids => (w.offPath path, ids.length)
decreasing_by
  · exact .right _ (Nat.succ_pos _)
  · exact .right _ (Nat.lt_succ_self _)

end

/-- All nodes behind those that feed them, visited in the order in which they came. -/
def depthFirstOrder (w : Workflow) : Except Cycle (List String) := w.visitAll [] [] w.ids

variable {w : Workflow} {path listed : List String} {id : String}

theorem visit_of_not_mem (hid : id ∉ w.ids) : w.visit path listed id = .ok listed := by
  rw [visit, dif_neg hid]

theorem visit_of_listed (hlisted : id ∈ listed) : w.visit path listed id = .ok listed := by
  by_cases hid : id ∈ w.ids
  · rw [visit, dif_pos hid, if_pos hlisted]
  · exact visit_of_not_mem hid

theorem visit_of_mem_path (hid : id ∈ w.ids) (hlisted : id ∉ listed) (hpath : id ∈ path) :
    w.visit path listed id = .error ⟨id, id :: (path.takeWhile (· ≠ id) ++ [id])⟩ := by
  rw [visit, dif_pos hid, if_neg hlisted, dif_pos hpath]

theorem visit_of_new (hid : id ∈ w.ids) (hlisted : id ∉ listed) (hpath : id ∉ path) :
    w.visit path listed id = (do
      let before ← w.visitAll (id :: path) listed (w.origins id)
      return before ++ [id]) := by
  rw [visit, dif_pos hid, if_neg hlisted, dif_neg hpath]

theorem visitAll_nil : w.visitAll path listed [] = .ok listed := by rw [visitAll]

theorem visitAll_cons (ids : List String) :
    w.visitAll path listed (id :: ids) = (do
      let listed ← w.visit path listed id
      w.visitAll path listed ids) := by
  rw [visitAll]

/-- What is no node makes no difference. -/
theorem visitAll_filter (ids : List String) :
    w.visitAll path listed (ids.filter (· ∈ w.ids)) = w.visitAll path listed ids := by
  induction ids generalizing listed with
  | nil => rfl
  | cons id ids ih =>
    by_cases hid : id ∈ w.ids
    · rw [List.filter_cons_of_pos (by simpa using hid), visitAll_cons, visitAll_cons]
      cases w.visit path listed id with
      | error c => rfl
      | ok more => exact ih
    · rw [List.filter_cons_of_neg (by simpa using hid), visitAll_cons, visit_of_not_mem hid]
      exact ih

/-! ## Ids at positions -/

/-- The id at a position. -/
def idAt (w : Workflow) (i : Nat) : String := w.ids.getD i ""

theorem getElem?_ids {i : Nat} (hi : i < w.nodes.length) : w.ids[i]? = some (w.idAt i) := by
  have hlt : i < w.ids.length := by simpa [ids] using hi
  rw [idAt, List.getD_eq_getElem?_getD, List.getElem?_eq_getElem hlt, Option.getD_some]

theorem idAt_mem {i : Nat} (hi : i < w.nodes.length) : w.idAt i ∈ w.ids := List.mem_of_getElem? (getElem?_ids hi)

theorem DistinctIds.idAt_inj (hw : w.DistinctIds) {i j : Nat} (hi : i < w.nodes.length) (hj : j < w.nodes.length) :
    w.idAt i = w.idAt j ↔ i = j := by
  have hlt {k : Nat} (hk : k < w.nodes.length) : k < w.ids.length := by simpa [ids] using hk
  exact List.getD_inj (hlt hi) (hlt hj) hw

/-- With distinct ids, a position is among others where its id is among theirs. -/
theorem DistinctIds.idAt_mem_map (hw : w.DistinctIds) {i : Nat} {positions : List Nat} (hi : i < w.nodes.length)
    (hpositions : ∀ j ∈ positions, j < w.nodes.length) : w.idAt i ∈ positions.map w.idAt ↔ i ∈ positions := by
  rw [List.mem_map]
  constructor
  · rintro ⟨j, hj, heq⟩
    rwa [← (hw.idAt_inj (hpositions j hj) hi).1 heq]
  · intro h
    exact ⟨i, h, rfl⟩

/-- The part of a path up to a position, read as ids. -/
theorem DistinctIds.map_upTo (hw : w.DistinctIds) {i : Nat} {positions : List Nat} (hi : i < w.nodes.length)
    (hpositions : ∀ j ∈ positions, j < w.nodes.length) (hmem : i ∈ positions) :
    (Order.upTo i positions).map w.idAt = (positions.map w.idAt).takeWhile (· ≠ w.idAt i) ++ [w.idAt i] := by
  induction positions with
  | nil => simp at hmem
  | cons j positions ih =>
    obtain ⟨hj, hrest⟩ := List.forall_mem_cons.1 hpositions
    by_cases hji : j = i
    · subst hji
      simp [Order.upTo]
    · have hne : w.idAt j ≠ w.idAt i := fun h => hji ((hw.idAt_inj hj hi).1 h)
      have hmem' : i ∈ positions := (List.mem_cons.1 hmem).resolve_left (Ne.symm hji)
      rw [Order.upTo, if_neg hji, List.map_cons, List.map_cons, List.takeWhile_cons_of_pos (by simpa using hne),
        ih hrest hmem', List.cons_append]

/-- With distinct ids, the position of an id is that of a node where the node has the id. -/
theorem DistinctIds.position?_eq_iff (hw : w.DistinctIds) {i : Nat} (hi : i < w.nodes.length) {id : String} :
    Order.position? w.nodes id = some i ↔ id = w.idAt i := by
  constructor
  · intro h
    have hget : w.ids[i]? = some id := Order.getElem?_of_position? h
    rw [getElem?_ids hi] at hget
    exact (Option.some.inj hget).symm
  · rintro rfl
    exact hw.position?_eq (getElem?_ids hi)

/-- The positions that a position takes from are those of the nodes that its connections come from. -/
theorem DistinctIds.map_takesFrom (hw : w.DistinctIds) {i : Nat} (hi : i < w.nodes.length) :
    (w.takesFrom i).map w.idAt = (w.origins (w.idAt i)).filter (· ∈ w.ids) := by
  rw [takesFrom, if_pos hi, Order.predecessors, Order.edges, origins, inbound, List.filterMap_filterMap,
    List.map_filterMap, ← List.filterMap_eq_filter, ← List.filterMap_eq_map, ← List.filterMap_eq_filter,
    List.filterMap_filterMap, List.filterMap_filterMap]
  -- Both sides go through the same connections, so it is enough to compare what each one gives.
  refine List.filterMap_congr fun c _ => ?_
  by_cases htarget : c.target = w.idAt i
  · have hi' : Order.position? w.nodes (w.idAt i) = some i := (hw.position?_eq_iff hi).2 rfl
    cases horigin : Order.position? w.nodes c.origin with
    | none =>
      have hgone : c.origin ∉ w.ids := by
        intro h
        obtain ⟨j, hj⟩ := Order.position?_isSome h
        rw [horigin] at hj
        cases hj
      simp [Option.guard, htarget, hgone]
    | some j =>
      have hget : w.ids[j]? = some c.origin := Order.getElem?_of_position? horigin
      have hid : w.idAt j = c.origin := by rw [idAt, List.getD_eq_getElem?_getD, hget, Option.getD_some]
      have hmem : c.origin ∈ w.ids := List.mem_of_getElem? hget
      simp [Option.guard, htarget, hi', hid, hmem]
  · have hi' : Order.position? w.nodes c.target ≠ some i := fun h => htarget ((hw.position?_eq_iff hi).1 h)
    cases horigin : Order.position? w.nodes c.origin with
    | none => simp [Option.guard, htarget]
    | some j =>
      cases hother : Order.position? w.nodes c.target with
      | none => simp [Option.guard, htarget]
      | some k =>
        have hne : k ≠ i := fun h => hi' (by rw [hother, h])
        simp [Option.guard, htarget, hne]

/-! ## What a search has still to do -/

/-- What is left of the recursion behind a path of frames. Each frame is a call that waits for the one in front of
it; it goes through what it has not looked at yet and then lists its node. -/
def resume (w : Workflow) : List Order.Frame → List String → Except Cycle (List String)
  | [], listed => .ok listed
  | f :: below, listed => do
    let before ← w.visitAll (((f :: below).map Order.Frame.node).map w.idAt) listed (f.todo.map w.idAt)
    w.resume below (before ++ [w.idAt f.node])

/-- A frame looks at one node and then at the rest. -/
theorem resume_cons {node p : Nat} {todo : List Nat} {below : List Order.Frame} :
    w.resume (⟨node, p :: todo⟩ :: below) listed = (do
      let before ← w.visit ((node :: below.map Order.Frame.node).map w.idAt) listed (w.idAt p)
      w.resume (⟨node, todo⟩ :: below) before) := by
  rw [resume, List.map_cons (f := w.idAt) (a := p), visitAll_cons, bind_assoc]
  rfl

/-- The ids of the nodes that a search has listed, in the order in which it did. -/
def listing (w : Workflow) (s : Order.Search) : List String := s.done.reverse.map w.idAt

section
variable {s t : Order.Search} {p : Nat}

theorem lt_of_mem_onPath (hs : s.Inv w.nodes.length w.takesFrom) : ∀ i ∈ s.onPath, i < w.nodes.length := by
  intro i hi
  rw [← hs.size]
  exact Order.lt_size_of_mark ((hs.inProgress i).2 hi)

theorem lt_of_mem_done (hs : s.Inv w.nodes.length w.takesFrom) : ∀ i ∈ s.done, i < w.nodes.length := by
  intro i hi
  rw [← hs.size]
  exact Order.lt_size_of_mark ((hs.finished i).2 hi)

theorem DistinctIds.idAt_mem_listing (hw : w.DistinctIds) (hs : s.Inv w.nodes.length w.takesFrom)
    (hp : p < w.nodes.length) : w.idAt p ∈ w.listing s ↔ s.marks[p]? = some .finished := by
  have hlt : ∀ i ∈ s.done.reverse, i < w.nodes.length := fun i hi => lt_of_mem_done hs i (List.mem_reverse.1 hi)
  rw [listing, hw.idAt_mem_map hp hlt, List.mem_reverse, hs.finished]

theorem DistinctIds.idAt_mem_onPath (hw : w.DistinctIds) (hs : s.Inv w.nodes.length w.takesFrom)
    (hp : p < w.nodes.length) : w.idAt p ∈ s.onPath.map w.idAt ↔ s.marks[p]? = some .inProgress := by
  rw [hw.idAt_mem_map hp (lt_of_mem_onPath hs), hs.inProgress]

/-! A visit below the path of a search goes by the mark of the node. -/

theorem DistinctIds.visit_of_unvisited (hw : w.DistinctIds) (hs : s.Inv w.nodes.length w.takesFrom)
    (hp : s.marks[p]? = some .unvisited) : w.visit (s.onPath.map w.idAt) (w.listing s) (w.idAt p) = (do
      let before ← w.visitAll ((p :: s.onPath).map w.idAt) (w.listing s) ((w.takesFrom p).map w.idAt)
      return before ++ [w.idAt p]) := by
  have hlt : p < w.nodes.length := by
    rw [← hs.size]
    exact Order.lt_size_of_mark hp
  have hlisted : w.idAt p ∉ w.listing s := by
    rw [hw.idAt_mem_listing hs hlt, hp]
    decide
  have hpath : w.idAt p ∉ s.onPath.map w.idAt := by
    rw [hw.idAt_mem_onPath hs hlt, hp]
    decide
  rw [visit_of_new (idAt_mem hlt) hlisted hpath, hw.map_takesFrom hlt, visitAll_filter]
  rfl

theorem DistinctIds.visit_of_inProgress (hw : w.DistinctIds) (hs : s.Inv w.nodes.length w.takesFrom)
    (hp : s.marks[p]? = some .inProgress) : w.visit (s.onPath.map w.idAt) (w.listing s) (w.idAt p) =
      .error ⟨w.idAt p, (p :: Order.upTo p s.onPath).map w.idAt⟩ := by
  have hmem : p ∈ s.onPath := (hs.inProgress p).1 hp
  have hlt : p < w.nodes.length := lt_of_mem_onPath hs p hmem
  have hlisted : w.idAt p ∉ w.listing s := by
    rw [hw.idAt_mem_listing hs hlt, hp]
    decide
  rw [visit_of_mem_path (idAt_mem hlt) hlisted (List.mem_map_of_mem hmem), List.map_cons,
    hw.map_upTo hlt (lt_of_mem_onPath hs) hmem]

theorem visit_of_finished (hs : s.Inv w.nodes.length w.takesFrom) (hp : s.marks[p]? = some .finished)
    (path : List String) : w.visit path (w.listing s) (w.idAt p) = .ok (w.listing s) :=
  visit_of_listed (List.mem_map_of_mem (List.mem_reverse.2 ((hs.finished p).1 hp)))

/-- **A move leaves what is still to be done as it is.** -/
theorem DistinctIds.resume_move (hw : w.DistinctIds) (hs : s.Inv w.nodes.length w.takesFrom)
    (h : s.Move w.takesFrom t) : w.resume s.path (w.listing s) = w.resume t.path (w.listing t) := by
  cases h with
  | finish marks node below done =>
    -- The call has gone through its list, and lists its node.
    simp only [resume, List.map_nil, visitAll_nil, listing, List.reverse_cons, List.map_append, List.map_cons]
    rfl
  | enter marks node p todo below done hp =>
    -- The call makes another one, which then is the first frame.
    have hvisit := hw.visit_of_unvisited hs hp
    rw [resume_cons]
    refine (congrArg (· >>= w.resume (⟨node, todo⟩ :: below)) hvisit).trans ?_
    simp only [bind_assoc, pure_bind]
    rfl
  | pass marks node p todo below done hp =>
    have hlt : p < w.nodes.length := by
      obtain ⟨-, -, htodo, -⟩ := hs.linked
      exact w.takesFrom_lt node p (htodo.subset (List.mem_cons_self ..))
    have hlisted : marks[p]? = some .finished := by
      rcases hp with hp | hp
      · exact hp
      · have hsize : marks.size = w.nodes.length := hs.size
        exact absurd (Array.getElem?_eq_none_iff.1 hp) (by omega)
    rw [resume_cons, visit_of_finished hs hlisted]
    rfl

/-- A round that reports a cycle reports the one that the recursion meets. -/
theorem DistinctIds.resume_cycle (hw : w.DistinctIds) (hs : s.Inv w.nodes.length w.takesFrom) {positions : List Nat}
    (h : s.round w.takesFrom = .cycle positions) : w.resume s.path (w.listing s) =
      .error ⟨(positions.map w.idAt).headD "", positions.map w.idAt⟩ := by
  obtain ⟨node, p, todo, below, hpath, hp, rfl⟩ := Order.Search.round_eq_cycle h
  have hvisit := hw.visit_of_inProgress hs hp
  have hnodes : s.onPath = node :: below.map Order.Frame.node := by
    rw [Order.Search.onPath, hpath]
    rfl
  rw [hpath, resume_cons, ← hnodes, hvisit]
  rfl

/-- What a search comes to, read as ids. -/
def outcome (w : Workflow) : Except (List Nat) Order.Search → Except Cycle (List String)
  | .ok s => .ok (w.listing s)
  | .error positions => .error ⟨(positions.map w.idAt).headD "", positions.map w.idAt⟩

/-- **A search does what it has still to do.** -/
theorem DistinctIds.outcome_run (hw : w.DistinctIds) (hs : s.Inv w.nodes.length w.takesFrom) :
    w.outcome (s.run w.takesFrom) = w.resume s.path (w.listing s) := by
  fun_induction Order.Search.run w.takesFrom s with
  | case1 s h =>
    rw [Order.Search.path_eq_nil_of_round h]
    rfl
  | case2 s positions h => exact (hw.resume_cycle hs h).symm
  | case3 s t h ih =>
    have hmove : s.Move w.takesFrom t := Order.Search.move_of_round h
    rw [hw.resume_move hs hmove]
    exact ih (hs.move w.takesFrom_lt hmove)

/-- Between two roots nothing is on the path, so a search from one more is a visit with an empty path. -/
theorem DistinctIds.outcome_visit (hw : w.DistinctIds) {roots : List Nat}
    (hs : s.Rests w.nodes.length w.takesFrom roots) {root : Nat} (hroot : root < w.nodes.length) :
    w.outcome (s.visit w.takesFrom root) = w.visit [] (w.listing s) (w.idAt root) := by
  have honPath : s.onPath = [] := by
    rw [Order.Search.onPath, hs.path]
    rfl
  rw [Order.Search.visit]
  by_cases hmark : s.marks[root]? = some .unvisited
  · -- The search starts with one frame, which is the call for the root.
    have hvisit := hw.visit_of_unvisited hs.inv hmark
    rw [honPath] at hvisit
    have hinv : Order.Search.Inv w.nodes.length w.takesFrom
        ⟨s.marks.setIfInBounds root .inProgress, [⟨root, w.takesFrom root⟩], s.done⟩ :=
      hs.inv.take hmark honPath.symm trivial
    rw [if_pos hmark, hw.outcome_run hinv]
    exact hvisit.symm
  · -- At rest, a root that is not unvisited is finished.
    have hlisted : w.idAt root ∈ w.listing s :=
      List.mem_map_of_mem (List.mem_reverse.2 (hs.mem_done hroot hmark))
    rw [if_neg hmark, visit_of_listed hlisted]
    rfl

/-- Searches from several roots are visits one after the other. -/
theorem DistinctIds.outcome_foldlM (hw : w.DistinctIds) {before roots : List Nat}
    (hs : s.Rests w.nodes.length w.takesFrom before) (hroots : ∀ root ∈ roots, root < w.nodes.length) :
    w.outcome (roots.foldlM (Order.Search.visit w.takesFrom) s) =
      w.visitAll [] (w.listing s) (roots.map w.idAt) := by
  induction roots generalizing s before with
  | nil =>
    rw [List.map_nil, visitAll_nil]
    rfl
  | cons root roots ih =>
    obtain ⟨hroot, hrest⟩ := List.forall_mem_cons.1 hroots
    have hrests := hs.visit w.takesFrom_lt hroot
    rw [List.map_cons, visitAll_cons, ← hw.outcome_visit hs hroot, List.foldlM_cons]
    cases hvisit : s.visit w.takesFrom root with
    | error positions => rfl
    | ok t =>
      rw [hvisit] at hrests
      exact ih hrests hrest

end

/-- **The execution order is that of the recursion.** With distinct ids the search with its own path comes to the
order that visiting the nodes one after the other comes to, and where the recursion meets a node on its path, the
search reports the same cycle. -/
theorem DistinctIds.executionOrder_eq_depthFirstOrder (hw : w.DistinctIds) :
    w.executionOrder = w.depthFirstOrder := by
  have hstart := Order.Search.Rests.start w.nodes.length w.takesFrom
  have hroots : ∀ i ∈ List.range w.nodes.length, i < w.nodes.length := fun i hi => List.mem_range.1 hi
  have hfold := hw.outcome_foldlM hstart hroots
  have hids : (List.range w.nodes.length).map w.idAt = w.ids := by
    rw [← w.idsAt_range]
    exact (idsAt_eq_map fun i hi => List.mem_range.1 hi).symm
  have hspec := Order.positions_spec w.takesFrom_lt
  have hpositions : Order.positions w.nodes.length w.takesFrom =
      ((List.range w.nodes.length).foldlM (Order.Search.visit w.takesFrom)
        ⟨Array.replicate w.nodes.length .unvisited, [], []⟩).map (·.done.reverse) := rfl
  -- What is left is to read the positions that the search returns as ids.
  rw [executionOrder_eq, depthFirstOrder, ← hids]
  refine Eq.trans ?_ hfold
  rw [hpositions] at hspec ⊢
  cases hsearch : (List.range w.nodes.length).foldlM (Order.Search.visit w.takesFrom)
      ⟨Array.replicate w.nodes.length .unvisited, [], []⟩ with
  | ok t =>
    rw [hsearch] at hspec
    have hlt : ∀ i ∈ t.done.reverse, i < w.nodes.length := fun i hi => List.mem_range.1 (hspec.1.mem_iff.1 hi)
    exact congrArg Except.ok (idsAt_eq_map hlt)
  | error positions =>
    rw [hsearch] at hspec
    have heq : w.idsAt positions = positions.map w.idAt := idsAt_eq_map hspec.2
    exact congrArg (fun ids : List String => Except.error (⟨ids.headD "", ids⟩ : Cycle)) heq

/-- A node that takes from a source and from a ring of two, one of which takes from the source too. -/
def snare : Workflow :=
  .ofParts "snare" (["t", "x", "y", "s"].map fun id => ⟨id, .transform, "merge", .empty⟩)
    [⟨"1", "s", "t"⟩, ⟨"2", "x", "t"⟩, ⟨"3", "y", "x"⟩, ⟨"4", "s", "y"⟩, ⟨"5", "x", "y"⟩, ⟨"6", "gone", "y"⟩]

/-- The cycle is the ring; what led to it is left out, and the source has been listed by then. -/
theorem executionOrder_eq_depthFirstOrder_snare : snare.DistinctIds ∧
    snare.depthFirstOrder = .error ⟨"x", ["x", "y", "x"]⟩ ∧ snare.executionOrder = snare.depthFirstOrder := by
  have hids : snare.DistinctIds := by decide
  have horder : snare.depthFirstOrder = .error ⟨"x", ["x", "y", "x"]⟩ := by cbv
  exact ⟨hids, horder, DistinctIds.executionOrder_eq_depthFirstOrder hids⟩

end Workflow

end Dataflow
