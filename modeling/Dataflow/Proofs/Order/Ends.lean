import Dataflow.Proofs.Order.Loop
/-!
The end of the search.

That the search ends is settled where it is defined, by a measure that every round makes smaller. How long it goes on
and how much it holds at a time is settled here, by an account of its runs (`Loop.Account`). Nothing happens twice in
a run: no root is come to again, no position is pushed or popped again, and no entry of a list is looked at again.
There is only so much that can happen, and every step takes some of it, so no run is longer (`Account.steps_le_all`)
and one of them has come to the end (`Loop.exists_ends`).

The events are no more than a record, and it is worth something only if it is a true one. That they are what becomes
of the stack is part of the account (`Makes`): a push puts a position on top, a look is at the entry that comes next
for the top, a pop takes off the top with no entry left. None of it needs distinct ids or connections with both ends,
so it holds of every workflow (`Workflow.executionOrder_ends`).
-/

set_option autoImplicit false

namespace Dataflow.Order

variable {count : Nat} {predecessors : Nat → List Nat}

/-! ## The stack that events make -/

/-- What an event does to the stack. -/
inductive Event.Acts (predecessors : Nat → List Nat) : Event → List (Nat × Nat) → List (Nat × Nat) → Prop where
  /-- The loop comes to a root with nothing on the stack. -/
  | root (position : Nat) : Acts predecessors (.root position) [] []
  /-- A position comes on top and has the first entry to look at. -/
  | push (position : Nat) (stack : List (Nat × Nat)) :
    Acts predecessors (.push position) stack ((position, 0) :: stack)
  /-- The top looks at the entry that comes next. -/
  | look (position entry : Nat) (below : List (Nat × Nat)) (hentry : entry < (predecessors position).length) :
    Acts predecessors (.look position entry) ((position, entry) :: below) ((position, entry + 1) :: below)
  /-- The top is taken off once it has no entry left. -/
  | pop (position : Nat) (below : List (Nat × Nat)) :
    Acts predecessors (.pop position) ((position, (predecessors position).length) :: below) below

/-- The stack that events make of an empty one. -/
inductive Makes (predecessors : Nat → List Nat) : List Event → List (Nat × Nat) → Prop where
  | nil : Makes predecessors [] []
  | concat {happened : List Event} {before after : List (Nat × Nat)} {e : Event}
      (hbefore : Makes predecessors happened before) (hact : e.Acts predecessors before after) :
    Makes predecessors (happened ++ [e]) after

namespace Loop

variable {l m : Loop} {happened more : List Event} {steps : Nat}

/-- The positions on the stack are different, are the ones in progress, and are no more than there are positions. -/
theorem Inv.stack_spec (hl : l.Inv count predecessors) :
    ((stack predecessors l.search.path).map Prod.fst).Nodup ∧
      (∀ i, i ∈ (stack predecessors l.search.path).map Prod.fst ↔ l.search.marks[i]? = some .inProgress) ∧
      (stack predecessors l.search.path).length ≤ count := by
  have hnodup : (l.search.path.map Frame.node).Nodup := hl.search.path_nodup
  have hmark : ∀ i, i ∈ l.search.path.map Frame.node ↔ l.search.marks[i]? = some .inProgress :=
    fun i => (hl.search.inProgress i).symm
  have hsubset : l.search.path.map Frame.node ⊆ List.range count := by
    intro i hi
    rw [List.mem_range, ← hl.search.size]
    exact lt_size_of_mark ((hmark i).1 hi)
  have hlength := hnodup.length_le_of_subset hsubset
  rw [List.length_map, List.length_range] at hlength
  rw [map_fst_stack]
  exact ⟨hnodup, hmark, by simpa [stack] using hlength⟩

/-- What happens in a step makes of the stack before it the one after it. -/
theorem makes_step (hl : l.Inv count predecessors) (h : Step predecessors l more m)
    (hmakes : Makes predecessors happened (stack predecessors l.search.path)) :
    Makes predecessors (happened ++ more) (stack predecessors m.search.path) := by
  cases h with
  | skip marks done root roots hroot => exact hmakes.concat (.root root)
  | start marks done root roots hroot =>
    have hpushed := (hmakes.concat (.root root)).concat (.push root [])
    simpa using hpushed
  | finish marks node below done roots => exact hmakes.concat (.pop node _)
  | enter marks node p todo below done roots hp =>
    obtain ⟨-, -, -, hle⟩ := hl.top
    have hlooked := hmakes.concat (.look node _ (stack predecessors below) (cursor_lt hle))
    have hpushed := hlooked.concat (.push p _)
    simpa [cursor_tail hle] using hpushed
  | pass marks node p todo below done roots hp =>
    obtain ⟨-, -, -, hle⟩ := hl.top
    have hlooked := hmakes.concat (.look node _ (stack predecessors below) (cursor_lt hle))
    simpa [cursor_tail hle] using hlooked

/-! ## Runs -/

/-- A run of the loop: how many steps it has, what happens in them, and where they lead. -/
inductive Run (predecessors : Nat → List Nat) (first : Loop) : Nat → List Event → Loop → Prop where
  | nil : Run predecessors first 0 [] first
  | step {steps : Nat} {happened : List Event} {l m : Loop} (hrun : Run predecessors first steps happened l)
      (hstep : l.step predecessors = .next m) :
    Run predecessors first (steps + 1) (happened ++ l.events predecessors) m

/-- What holds of a run: what has happened in it is what lies behind the loop, each event once. -/
structure Account (count : Nat) (predecessors : Nat → List Nat) (steps : Nat) (happened : List Event) (l : Loop) :
    Prop where
  inv : l.Inv count predecessors
  nodup : happened.Nodup
  mem_iff : ∀ e, e ∈ happened ↔ e.Happened count predecessors l
  within : ∀ e ∈ happened, e.Within count predecessors
  makes : Makes predecessors happened (stack predecessors l.search.path)
  steps_le : steps ≤ happened.length

/-- The next step makes no event a second one. -/
theorem Account.nodup_append (h : Account count predecessors steps happened l) :
    (happened ++ l.events predecessors).Nodup := by
  refine List.nodup_append.2 ⟨h.nodup, l.events_nodup, ?_⟩
  rintro e he _ hnext rfl
  exact (new_of_mem_events h.inv hnext).2 ((h.mem_iff e).1 he)

/-- **Every run has its account.** -/
theorem Run.account (hbound : ∀ i, ∀ p ∈ predecessors i, p < count)
    (h : Run predecessors (.start count) steps happened l) : Account count predecessors steps happened l := by
  induction h with
  | nil =>
    have hnothing (e : Event) : e ∈ [] ↔ e.Happened count predecessors (.start count) := by
      simpa using not_happened_start e
    exact ⟨.start count predecessors, List.nodup_nil, hnothing, by simp, .nil, Nat.le_refl 0⟩
  | step hrun hstep ih =>
    have hspec := step_spec hstep
    refine ⟨ih.inv.step hbound hspec, ih.nodup_append, ?_, ?_, makes_step ih.inv hspec ih.makes, ?_⟩
    · intro e
      rw [List.mem_append, happened_step ih.inv hspec, ih.mem_iff]
    · intro e he
      rcases List.mem_append.1 he with he | he
      · exact ih.within e he
      · exact (new_of_mem_events ih.inv he).1
    · have hpos := List.length_pos_iff.2 hspec.ne_nil
      have hle := ih.steps_le
      rw [List.length_append]
      omega

end Loop

/-! ## The end -/

/-- All that can happen: each position is come to, pushed and popped, and each entry of its list is looked at. -/
def Event.all (count : Nat) (predecessors : Nat → List Nat) : List Event :=
  (List.range count).flatMap fun i =>
    [.root i, .push i, .pop i] ++ (List.range (predecessors i).length).map (.look i)

theorem Event.mem_all_iff {e : Event} : e ∈ Event.all count predecessors ↔ e.Within count predecessors := by
  cases e <;> simp [Event.all, Event.Within]

theorem Event.length_all : (Event.all count predecessors).length =
    3 * count + ((List.range count).flatMap predecessors).length := by
  have hlist (l : List Nat) : (l.flatMap fun i => [Event.root i, .push i, .pop i] ++
      (List.range (predecessors i).length).map (.look i)).length = 3 * l.length + (l.flatMap predecessors).length := by
    induction l with
    | nil => rfl
    | cons i l ih =>
      rw [List.flatMap_cons, List.flatMap_cons, List.length_append, List.length_append, List.length_append,
        List.length_map, List.length_range, ih]
      simp only [List.length_cons, List.length_nil]
      omega
  rw [Event.all, hlist, List.length_range]

/-- A search goes on as it does after the next round. -/
theorem Search.run_eq (s : Search) : s.run predecessors =
    match s.round predecessors with
    | .finished => .ok s
    | .cycle positions => .error positions
    | .next t => t.run predecessors := by
  rw [Search.run]
  split <;> simp_all

namespace Loop

variable {l m : Loop} {happened : List Event} {steps : Nat}

/-- **There is an end to every run**, since no event happens twice. -/
theorem Account.steps_le_all (h : Account count predecessors steps happened l) :
    steps ≤ 3 * count + ((List.range count).flatMap predecessors).length := by
  have hsubset : happened ⊆ Event.all count predecessors := by
    intro e he
    exact Event.mem_all_iff.2 (h.within e he)
  have hlength := h.nodup.length_le_of_subset hsubset
  rw [Event.length_all] at hlength
  exact h.steps_le.trans hlength

/-- A loop that does not end has runs of any length. -/
theorem exists_run {first : Loop} (hgoes : ∀ steps happened l, Run predecessors first steps happened l →
    ∀ result, l.step predecessors ≠ .ends result) (steps : Nat) :
    ∃ happened l, Run predecessors first steps happened l := by
  induction steps with
  | zero => exact ⟨[], first, .nil⟩
  | succ steps ih =>
    obtain ⟨happened, l, hrun⟩ := ih
    cases hstep : l.step predecessors with
    | ends result => exact absurd hstep (hgoes steps happened l hrun result)
    | next m => exact ⟨_, m, hrun.step hstep⟩

/-- What the search comes to from where the loop is. -/
def outcome (predecessors : Nat → List Nat) (l : Loop) : Except (List Nat) (List Nat) :=
  (l.search.run predecessors >>= l.roots.foldlM (Search.visit predecessors)).map (·.done.reverse)

/-- A step does what comes next and leaves the rest to be done. -/
theorem outcome_of_next (h : l.step predecessors = .next m) : m.outcome predecessors = l.outcome predecessors := by
  obtain ⟨s, roots⟩ := l
  rw [step] at h
  rw [outcome, outcome, Search.run_eq s]
  cases hround : s.round predecessors with
  | next t =>
    rw [hround] at h
    obtain rfl : _ = m := by simpa using h
    rfl
  | cycle positions =>
    rw [hround] at h
    simp at h
  | finished =>
    rw [hround] at h
    cases roots with
    | nil => simp at h
    | cons root roots =>
      have hvisit : (Except.ok s >>= (root :: roots).foldlM (Search.visit predecessors)) =
          (s.visit predecessors root >>= roots.foldlM (Search.visit predecessors)) := by
        show (root :: roots).foldlM (Search.visit predecessors) s = _
        rw [List.foldlM_cons]
      simp only [hvisit, Search.visit]
      by_cases hroot : s.marks[root]? = some .unvisited
      · simp only [hroot, if_true, Turn.next.injEq] at h
        subst h
        rw [if_pos hroot]
      · simp only [hroot, if_false, Turn.next.injEq] at h
        subst h
        rw [if_neg hroot, Search.run_eq s, hround]

theorem outcome_of_ends {result : Except (List Nat) (List Nat)} (h : l.step predecessors = .ends result) :
    l.outcome predecessors = result := by
  obtain ⟨s, roots⟩ := l
  rw [step] at h
  rw [outcome, Search.run_eq s]
  cases hround : s.round predecessors with
  | next t =>
    rw [hround] at h
    simp at h
  | cycle positions =>
    rw [hround] at h
    obtain rfl : _ = result := by simpa using h
    rfl
  | finished =>
    rw [hround] at h
    cases roots with
    | nil =>
      obtain rfl : _ = result := by simpa using h
      rfl
    | cons root roots =>
      by_cases hroot : s.marks[root]? = some .unvisited
      · simp [hroot] at h
      · simp [hroot] at h

/-- Before the first root, all of the search is left to be done. -/
theorem outcome_start : (start count).outcome predecessors = positions count predecessors := by
  rw [outcome, Search.run_eq]
  rfl

theorem Run.outcome_eq {first : Loop} (h : Run predecessors first steps happened l) :
    l.outcome predecessors = first.outcome predecessors := by
  induction h with
  | nil => rfl
  | step hrun hstep ih => rw [outcome_of_next hstep, ih]

/-- **The loop ends**, with what the search comes to. -/
theorem exists_ends (hbound : ∀ i, ∀ p ∈ predecessors i, p < count) : ∃ steps happened l,
    Run predecessors (.start count) steps happened l ∧ l.step predecessors = .ends (positions count predecessors) := by
  by_contra hnever
  -- Otherwise some run would be longer than all that can happen.
  have hgoes : ∀ steps happened l, Run predecessors (.start count) steps happened l →
      ∀ result, l.step predecessors ≠ .ends result := by
    intro steps happened l hrun result hends
    have hresult : positions count predecessors = result := by
      rw [← outcome_start, ← hrun.outcome_eq, outcome_of_ends hends]
    exact hnever ⟨steps, happened, l, hrun, hresult ▸ hends⟩
  obtain ⟨happened, l, hrun⟩ := exists_run hgoes (3 * count + ((List.range count).flatMap predecessors).length + 1)
  have hle := (hrun.account hbound).steps_le_all
  omega

end Loop

/-- Of the entries of all lists, there is one for each edge. -/
theorem length_flatMap_predecessors (edges : List (Nat × Nat)) (count : Nat) :
    ((List.range count).flatMap (Order.predecessors edges)).length = edges.countP (·.2 < count) := by
  induction count with
  | zero => simp
  | succ count ih =>
    rw [List.range_succ, List.flatMap_append, List.length_append, ih, List.flatMap_singleton]
    clear ih
    -- An edge to a position up to `count` leads to `count` itself or to one before it.
    induction edges with
    | nil => rfl
    | cons e edges ih =>
      rw [List.countP_cons, List.countP_cons, ← ih, Order.predecessors, List.filterMap_cons]
      by_cases he : e.2 = count
      · simp [he, Order.predecessors]
        omega
      · have hlt : e.2 < count + 1 ↔ e.2 < count := by omega
        simp [he, hlt, Order.predecessors]
        omega

end Dataflow.Order

namespace Dataflow.Workflow

variable {w : Workflow}

/-- The lists of predecessors have no more entries than there are connections. -/
theorem length_flatMap_takesFrom_le (w : Workflow) :
    ((List.range w.nodes.length).flatMap w.takesFrom).length ≤ w.connections.length := by
  have hlists : (List.range w.nodes.length).flatMap w.takesFrom =
      (List.range w.nodes.length).flatMap (Order.predecessors (Order.edges w)) := by
    refine List.flatMap_congr fun i hi => ?_
    rw [takesFrom, if_pos (List.mem_range.1 hi)]
  calc ((List.range w.nodes.length).flatMap w.takesFrom).length
    _ = (Order.edges w).countP (·.2 < w.nodes.length) := by rw [hlists, Order.length_flatMap_predecessors]
    _ ≤ (Order.edges w).length := List.countP_le_length
    _ ≤ w.connections.length := List.length_filterMap_le _ _

/-- What the search comes to, read as ids. -/
def inIds (w : Workflow) : Except (List Nat) (List Nat) → Except Cycle (List String)
  | .ok order => .ok (w.idsAt order)
  | .error cycle => .error ⟨(w.idsAt cycle).headD "", w.idsAt cycle⟩

theorem executionOrder_eq_inIds (w : Workflow) :
    w.executionOrder = w.inIds (Order.positions w.nodes.length w.takesFrom) := by
  rw [executionOrder_eq]
  cases Order.positions w.nodes.length w.takesFrom <;> rfl

/-- An order has one entry for each position, also where nodes share an id. -/
theorem exists_positions_of_order {order : List String} (h : w.executionOrder = .ok order) :
    ∃ positions : List Nat, positions.Perm (List.range w.nodes.length) ∧
      order = positions.map fun i => w.ids.getD i "" := by
  have hsearch := Order.positions_spec w.takesFrom_lt
  rw [executionOrder_eq_inIds] at h
  cases hpositions : Order.positions w.nodes.length w.takesFrom with
  | error cycle =>
    rw [hpositions] at h
    cases h
  | ok positions =>
    rw [hpositions] at h hsearch
    obtain ⟨hperm, -⟩ := hsearch
    obtain rfl : w.idsAt positions = order := Except.ok.inj h
    refine ⟨positions, hperm, idsAt_eq_map fun i hi => ?_⟩
    exact List.mem_range.1 (hperm.mem_iff.1 hi)

/-- **The search for an order always ends**, whatever the nodes and connections of the workflow are. It makes no more
steps than three for each node and one for each connection, because nothing happens twice in it: no position is
pushed twice, no entry of a list of predecessors is looked at twice. What happens makes the stack, and at any time
the positions on it are different and are those in progress, so that it is never higher than there are nodes. The loop
that has no step left to make has come to the order of the workflow, or to its cycle, and the order has one entry for
each position. -/
theorem executionOrder_ends (w : Workflow) :
    (∀ steps happened l, Order.Loop.Run w.takesFrom (.start w.nodes.length) steps happened l →
      steps ≤ 3 * w.nodes.length + w.connections.length ∧
      (happened ++ l.events w.takesFrom).Nodup ∧
      Order.Makes w.takesFrom happened (Order.stack w.takesFrom l.search.path) ∧
      ((Order.stack w.takesFrom l.search.path).map Prod.fst).Nodup ∧
      (∀ i, i ∈ (Order.stack w.takesFrom l.search.path).map Prod.fst ↔ l.search.marks[i]? = some .inProgress) ∧
      (Order.stack w.takesFrom l.search.path).length ≤ w.nodes.length ∧
      ∀ result, l.step w.takesFrom = .ends result → w.executionOrder = w.inIds result) ∧
    (∃ steps happened l result, Order.Loop.Run w.takesFrom (.start w.nodes.length) steps happened l ∧
      l.step w.takesFrom = .ends result) ∧
    ∀ order, w.executionOrder = .ok order → ∃ positions : List Nat, positions.Perm (List.range w.nodes.length) ∧
      order = positions.map fun i => w.ids.getD i "" := by
  refine ⟨fun steps happened l hrun => ?_, ?_, fun order h => exists_positions_of_order h⟩
  · have haccount := hrun.account w.takesFrom_lt
    obtain ⟨hnodup, hmarks, hheight⟩ := haccount.inv.stack_spec
    have hsteps := haccount.steps_le_all
    have hentries := w.length_flatMap_takesFrom_le
    refine ⟨by omega, haccount.nodup_append, haccount.makes, hnodup, hmarks, hheight, ?_⟩
    intro result hends
    rw [executionOrder_eq_inIds, ← Order.Loop.outcome_start, ← hrun.outcome_eq, Order.Loop.outcome_of_ends hends]
  · obtain ⟨steps, happened, l, hrun, hends⟩ := Order.Loop.exists_ends w.takesFrom_lt
    exact ⟨steps, happened, l, _, hrun, hends⟩

/-- Two nodes with one id, joined twice to a third, which is joined to no node. -/
def twins : Workflow :=
  .ofParts "twins" (["x", "x", "y"].map fun id => ⟨id, .transform, "merge", .empty⟩)
    [⟨"1", "x", "y"⟩, ⟨"1", "x", "y"⟩, ⟨"2", "y", "gone"⟩]

/-- Three nodes and three connections make for at most twelve steps, and both positions of the id are listed. -/
theorem executionOrder_ends_twins : twins.executionOrder = .ok ["x", "x", "y"] ∧ twins.takesFrom 2 = [1, 1] ∧
    ∃ steps happened l result, Order.Loop.Run twins.takesFrom (.start 3) steps happened l ∧
      l.step twins.takesFrom = .ends result ∧ steps ≤ 12 ∧ happened.Nodup ∧
      twins.inIds result = .ok ["x", "x", "y"] := by
  have horder : twins.executionOrder = .ok ["x", "x", "y"] := by cbv
  have htakes : twins.takesFrom 2 = [1, 1] := by cbv
  obtain ⟨hruns, ⟨steps, happened, l, result, hrun, hends⟩, -⟩ := executionOrder_ends twins
  obtain ⟨hsteps, hnodup, -, -, -, -, hresult⟩ := hruns steps happened l hrun
  refine ⟨horder, htakes, steps, happened, l, result, hrun, hends, hsteps, (List.nodup_append.1 hnodup).1, ?_⟩
  rw [← hresult result hends, horder]

end Dataflow.Workflow
