import Dataflow.Proofs.Order.Execution
/-!
The search as one loop.

The search is written as a recursion that follows one path after the other. Here it is seen as what it is when it
runs, one loop that makes a step at a time: a round of the search, or the next root where the path is empty
(`Loop.step`). What happens in a step is written down beside it (`Loop.events`): a root is come to, a position is
pushed or popped, an entry in a list of predecessors is looked at.

Where the loop is decides what has happened on the way there (`Event.Happened`). The two main statements are about
one step. It adds to what has happened what happens in it (`Loop.happened_step`), and that is new each time
(`Loop.new_of_mem_events`). Neither looks at the nodes and connections that positions and lists come from.
-/

set_option autoImplicit false

namespace Dataflow.Order

variable {count : Nat} {predecessors : Nat → List Nat}

/-! ## The loop -/

/-- The search over positions as one loop: the search, and the roots that it has not come to. -/
structure Loop where
  search : Search
  roots : List Nat

/-- What a step of the loop comes to. -/
inductive Turn where
  /-- The loop ends with the positions in order, or with those along a cycle. -/
  | ends (result : Except (List Nat) (List Nat))
  | next (l : Loop)

/-- What happens in a step. -/
inductive Event where
  /-- The loop comes to a root. -/
  | root (position : Nat)
  /-- A position is put on the path. -/
  | push (position : Nat)
  /-- An entry in the list of a position is looked at. -/
  | look (position entry : Nat)
  /-- A position is taken off the path and listed. -/
  | pop (position : Nat)
deriving DecidableEq

/-- How many entries of its list a frame has looked at. -/
def Frame.cursor (predecessors : Nat → List Nat) (f : Frame) : Nat :=
  (predecessors f.node).length - f.todo.length

namespace Loop

/-- Before the first root. -/
def start (count : Nat) : Loop := ⟨⟨Array.replicate count .unvisited, [], []⟩, List.range count⟩

/-- A step is a round of the search, or goes to the next root where nothing is on the path. -/
def step (predecessors : Nat → List Nat) (l : Loop) : Turn :=
  match l.search.round predecessors with
  | .next s => .next ⟨s, l.roots⟩
  | .cycle positions => .ends (.error positions)
  | .finished =>
    match l.roots with
    | [] => .ends (.ok l.search.done.reverse)
    | root :: roots =>
      if l.search.marks[root]? = some .unvisited then
        .next ⟨⟨l.search.marks.setIfInBounds root .inProgress, [⟨root, predecessors root⟩], l.search.done⟩, roots⟩
      else .next ⟨l.search, roots⟩

/-- A position that the loop meets is pushed if it is unvisited. -/
def pushes (l : Loop) (p : Nat) : List Event := if l.search.marks[p]? = some .unvisited then [.push p] else []

/-- What happens in the step that comes next, also if the loop ends with it. -/
def events (predecessors : Nat → List Nat) (l : Loop) : List Event :=
  match l.search.path, l.roots with
  | [], [] => []
  | [], root :: _ => .root root :: l.pushes root
  | ⟨node, []⟩ :: _, _ => [.pop node]
  | ⟨node, p :: todo⟩ :: _, _ => .look node (Frame.cursor predecessors ⟨node, p :: todo⟩) :: l.pushes p

/-! ## Steps -/

/-- What a step does to a loop that goes on, with what happens in it. -/
inductive Step (predecessors : Nat → List Nat) : Loop → List Event → Loop → Prop where
  /-- A root that has been visited is passed over. -/
  | skip (marks : Array Mark) (done : List Nat) (root : Nat) (roots : List Nat)
      (hroot : marks[root]? ≠ some .unvisited) :
    Step predecessors ⟨⟨marks, [], done⟩, root :: roots⟩ [.root root] ⟨⟨marks, [], done⟩, roots⟩
  | start (marks : Array Mark) (done : List Nat) (root : Nat) (roots : List Nat)
      (hroot : marks[root]? = some .unvisited) :
    Step predecessors ⟨⟨marks, [], done⟩, root :: roots⟩ [.root root, .push root]
      ⟨⟨marks.setIfInBounds root .inProgress, [⟨root, predecessors root⟩], done⟩, roots⟩
  | finish (marks : Array Mark) (node : Nat) (below : List Frame) (done roots : List Nat) :
    Step predecessors ⟨⟨marks, ⟨node, []⟩ :: below, done⟩, roots⟩ [.pop node]
      ⟨⟨marks.setIfInBounds node .finished, below, node :: done⟩, roots⟩
  | enter (marks : Array Mark) (node p : Nat) (todo : List Nat) (below : List Frame) (done roots : List Nat)
      (hp : marks[p]? = some .unvisited) :
    Step predecessors ⟨⟨marks, ⟨node, p :: todo⟩ :: below, done⟩, roots⟩
      [.look node (Frame.cursor predecessors ⟨node, p :: todo⟩), .push p]
      ⟨⟨marks.setIfInBounds p .inProgress, ⟨p, predecessors p⟩ :: ⟨node, todo⟩ :: below, done⟩, roots⟩
  | pass (marks : Array Mark) (node p : Nat) (todo : List Nat) (below : List Frame) (done roots : List Nat)
      (hp : marks[p]? = some .finished ∨ marks[p]? = none) :
    Step predecessors ⟨⟨marks, ⟨node, p :: todo⟩ :: below, done⟩, roots⟩
      [.look node (Frame.cursor predecessors ⟨node, p :: todo⟩)]
      ⟨⟨marks, ⟨node, todo⟩ :: below, done⟩, roots⟩

variable {l m : Loop} {happened : List Event}

/-- A loop that goes on has made one of the steps. -/
theorem step_spec (h : l.step predecessors = .next m) : Step predecessors l (l.events predecessors) m := by
  obtain ⟨s, roots⟩ := l
  rw [step] at h
  cases hround : s.round predecessors with
  | next t =>
    rw [hround] at h
    obtain rfl : _ = m := by simpa using h
    cases Search.move_of_round hround with
    | finish marks node below done => exact .finish marks node below done roots
    | enter marks node p todo below done hp =>
      have hstep : Step predecessors _ _ _ := .enter marks node p todo below done roots hp
      simpa [events, pushes, hp] using hstep
    | pass marks node p todo below done hp =>
      have hstep : Step predecessors _ _ _ := .pass marks node p todo below done roots hp
      have hmark : marks[p]? ≠ some .unvisited := by
        rcases hp with hp | hp <;> simp [hp]
      simpa [events, pushes, hmark] using hstep
  | cycle positions =>
    rw [hround] at h
    simp at h
  | finished =>
    obtain ⟨marks, path, done⟩ := s
    obtain rfl : path = [] := Search.path_eq_nil_of_round hround
    rw [hround] at h
    cases roots with
    | nil => simp at h
    | cons root roots =>
      by_cases hroot : marks[root]? = some .unvisited
      · simp only [hroot, if_true, Turn.next.injEq] at h
        subst h
        have hstep : Step predecessors _ _ _ := .start marks done root roots hroot
        simpa [events, pushes, hroot] using hstep
      · simp only [hroot, if_false, Turn.next.injEq] at h
        subst h
        have hstep : Step predecessors _ _ _ := .skip marks done root roots hroot
        simpa [events, pushes, hroot] using hstep

theorem Step.ne_nil (h : Step predecessors l happened m) : happened ≠ [] := by
  cases h <;> simp

/-! ## The invariant -/

/-- What holds of the loop between two steps. -/
structure Inv (count : Nat) (predecessors : Nat → List Nat) (l : Loop) : Prop where
  search : l.search.Inv count predecessors
  roots : l.roots <:+ List.range count

theorem Inv.start (count : Nat) (predecessors : Nat → List Nat) : (start count).Inv count predecessors :=
  ⟨(Search.Rests.start count predecessors).inv, List.suffix_refl _⟩

/-- Every step keeps the invariant. -/
theorem Inv.step (hbound : ∀ i, ∀ p ∈ predecessors i, p < count) (hl : l.Inv count predecessors)
    (h : Step predecessors l happened m) : m.Inv count predecessors := by
  cases h with
  | skip marks done root roots hroot => exact ⟨hl.search, (List.suffix_cons root roots).trans hl.roots⟩
  | start marks done root roots hroot =>
    exact ⟨hl.search.take hroot rfl trivial, (List.suffix_cons root roots).trans hl.roots⟩
  | finish marks node below done roots => exact ⟨hl.search.list, hl.roots⟩
  | enter marks node p todo below done roots hp =>
    exact ⟨hl.search.move hbound (.enter marks node p todo below done hp), hl.roots⟩
  | pass marks node p todo below done roots hp =>
    exact ⟨hl.search.move hbound (.pass marks node p todo below done hp), hl.roots⟩

/-- The next root is a position, and is not among the roots after it. -/
theorem Inv.root {s : Search} {root : Nat} {roots : List Nat} (hl : Inv count predecessors ⟨s, root :: roots⟩) :
    root < count ∧ root ∉ roots := by
  have hmem : root ∈ List.range count := hl.roots.subset (List.mem_cons_self ..)
  have hnodup : (root :: roots).Nodup := List.nodup_range.sublist hl.roots.sublist
  exact ⟨List.mem_range.1 hmem, (List.nodup_cons.1 hnodup).1⟩

/-- The deepest node on the path is a position that is neither listed nor on the path again, and what it has not
looked at is part of its list. -/
theorem Inv.top {marks : Array Mark} {node : Nat} {todo : List Nat} {below : List Frame} {done roots : List Nat}
    (hl : Inv count predecessors ⟨⟨marks, ⟨node, todo⟩ :: below, done⟩, roots⟩) :
    node < count ∧ node ∉ done ∧ node ∉ below.map Frame.node ∧ todo.length ≤ (predecessors node).length := by
  have hmark : marks[node]? = some .inProgress := (hl.search.inProgress node).2 (List.mem_cons_self ..)
  have hunlisted : node ∉ done := by
    intro hmem
    have := (hl.search.finished node).2 hmem
    simp [hmark] at this
  have hlt : node < marks.size := lt_size_of_mark hmark
  have hsize : marks.size = count := hl.search.size
  have hbelow : node ∉ below.map Frame.node := (List.nodup_cons.1 hl.search.path_nodup).1
  obtain ⟨-, -, htodo, -⟩ := hl.search.linked
  exact ⟨by omega, hunlisted, hbelow, htodo.length_le⟩

/-- What is unvisited is a position, and neither on the path nor listed. -/
theorem Inv.unvisited (hl : l.Inv count predecessors) {p : Nat} (hp : l.search.marks[p]? = some .unvisited) :
    p < count ∧ p ∉ l.search.onPath ∧ p ∉ l.search.done := by
  have hlt : p < l.search.marks.size := lt_size_of_mark hp
  have hsize : l.search.marks.size = count := hl.search.size
  refine ⟨by omega, ?_, ?_⟩
  · intro hmem
    have := (hl.search.inProgress p).2 hmem
    simp [hp] at this
  · intro hmem
    have := (hl.search.finished p).2 hmem
    simp [hp] at this

end Loop

/-! ## The stack

The path with the numbers of the entries that come next is all that can be seen of what has been looked at. -/

/-- The path as a stack of positions, each with the number of the entry that it looks at next. The top comes first. -/
def stack (predecessors : Nat → List Nat) (path : List Frame) : List (Nat × Nat) :=
  path.map fun f => (f.node, f.cursor predecessors)

@[simp] theorem stack_nil : stack predecessors [] = [] := rfl

@[simp] theorem stack_cons (f : Frame) (path : List Frame) :
    stack predecessors (f :: path) = (f.node, f.cursor predecessors) :: stack predecessors path := rfl

theorem map_fst_stack (path : List Frame) : (stack predecessors path).map Prod.fst = path.map Frame.node := by
  simp [stack]

section
variable {node p : Nat} {todo : List Nat}

@[simp] theorem cursor_whole : Frame.cursor predecessors ⟨node, predecessors node⟩ = 0 := by
  simp [Frame.cursor]

@[simp] theorem cursor_nil : Frame.cursor predecessors ⟨node, []⟩ = (predecessors node).length := rfl

theorem cursor_lt (h : (p :: todo).length ≤ (predecessors node).length) :
    Frame.cursor predecessors ⟨node, p :: todo⟩ < (predecessors node).length := by
  simp only [Frame.cursor, List.length_cons] at h ⊢
  omega

theorem cursor_tail (h : (p :: todo).length ≤ (predecessors node).length) :
    Frame.cursor predecessors ⟨node, todo⟩ = Frame.cursor predecessors ⟨node, p :: todo⟩ + 1 := by
  simp only [Frame.cursor, List.length_cons] at h ⊢
  omega

end

/-- Whether the stack has a position and goes on behind an entry of its list. -/
def Looked (stack : List (Nat × Nat)) (position entry : Nat) : Prop :=
  ∃ cursor, (position, cursor) ∈ stack ∧ entry < cursor

section
variable {below : List (Nat × Nat)} {node cursor position entry : Nat}

theorem not_looked_nil : ¬ Looked [] position entry := by
  simp [Looked]

theorem looked_cons : Looked ((node, cursor) :: below) position entry ↔
    (position = node ∧ entry < cursor) ∨ Looked below position entry := by
  simp only [Looked, List.mem_cons, Prod.mk.injEq, or_and_right, exists_or, and_assoc]
  simp

theorem looked_cons_zero : Looked ((node, 0) :: below) position entry ↔ Looked below position entry := by
  simp [looked_cons]

/-- Where the top goes on by one, one entry more has been looked at. -/
theorem looked_cons_succ : Looked ((node, cursor + 1) :: below) position entry ↔
    Looked ((node, cursor) :: below) position entry ∨ (position = node ∧ entry = cursor) := by
  rw [looked_cons, looked_cons, Nat.lt_succ_iff_lt_or_eq, and_or_left]
  tauto

theorem Looked.mem {path : List Frame} (h : Looked (stack predecessors path) position entry) :
    position ∈ path.map Frame.node := by
  obtain ⟨cursor, hmem, -⟩ := h
  have hfst := List.mem_map_of_mem (f := Prod.fst) hmem
  rwa [map_fst_stack] at hfst

end

/-! ## What has happened -/

/-- Whether an event is about a position, and about an entry in its list. -/
def Event.Within (count : Nat) (predecessors : Nat → List Nat) : Event → Prop
  | .root position | .push position | .pop position => position < count
  | .look position entry => position < count ∧ entry < (predecessors position).length

/-- Whether an event lies behind a loop. -/
def Event.Happened (count : Nat) (predecessors : Nat → List Nat) (l : Loop) : Event → Prop
  | .root position => position < count ∧ position ∉ l.roots
  | .push position => position ∈ l.search.onPath ∨ position ∈ l.search.done
  | .look position entry =>
    (position ∈ l.search.done ∧ entry < (predecessors position).length) ∨
      Looked (stack predecessors l.search.path) position entry
  | .pop position => position ∈ l.search.done

namespace Loop

variable {l m : Loop} {happened : List Event} {e : Event}

theorem mem_pushes_iff {p : Nat} : e ∈ l.pushes p ↔ l.search.marks[p]? = some .unvisited ∧ e = .push p := by
  rw [pushes]
  split <;> simp_all

theorem not_happened_start (e : Event) : ¬ e.Happened count predecessors (start count) := by
  cases e <;> simp [Event.Happened, start, Search.onPath, not_looked_nil]

theorem happened_root_step (hl : l.Inv count predecessors) (h : Step predecessors l happened m) {position : Nat} :
    (Event.root position).Happened count predecessors m ↔
      (Event.root position).Happened count predecessors l ∨ .root position ∈ happened := by
  cases h with
  | skip marks done root roots | start marks done root roots =>
    obtain ⟨hlt, hnew⟩ := hl.root
    by_cases hposition : position = root
    · simp [Event.Happened, hposition, hlt, hnew]
    · simp [Event.Happened, hposition]
  | finish | enter | pass => simp [Event.Happened]

theorem happened_push_step (h : Step predecessors l happened m) {position : Nat} :
    (Event.push position).Happened count predecessors m ↔
      (Event.push position).Happened count predecessors l ∨ .push position ∈ happened := by
  cases h with
  | skip | pass => simp [Event.Happened, Search.onPath]
  | start | enter => simp [Event.Happened, Search.onPath, or_left_comm, or_comm]
  | finish => simp [Event.Happened, Search.onPath, or_assoc, or_left_comm]

theorem happened_pop_step (h : Step predecessors l happened m) {position : Nat} :
    (Event.pop position).Happened count predecessors m ↔
      (Event.pop position).Happened count predecessors l ∨ .pop position ∈ happened := by
  cases h with
  | finish => simp [Event.Happened, or_comm]
  | skip | start | enter | pass => simp [Event.Happened]

theorem happened_look_step (hl : l.Inv count predecessors) (h : Step predecessors l happened m)
    {position entry : Nat} :
    (Event.look position entry).Happened count predecessors m ↔
      (Event.look position entry).Happened count predecessors l ∨ .look position entry ∈ happened := by
  cases h with
  | skip => simp [Event.Happened]
  | start => simp [Event.Happened, looked_cons_zero]
  | finish marks node below done roots =>
    -- The cursor of a node that is taken off is at the end of its list, so as a listed one it has looked at the same.
    by_cases hposition : position = node
    · simp only [Event.Happened, hposition, stack_cons, cursor_nil, looked_cons, List.mem_cons_self, true_and,
        List.mem_cons, List.not_mem_nil, reduceCtorEq, or_self, or_false]
      tauto
    · simp [Event.Happened, hposition, looked_cons]
  | enter marks node p todo below done roots hp =>
    obtain ⟨-, -, -, hle⟩ := hl.top
    simp [Event.Happened, cursor_tail hle, looked_cons_zero, looked_cons_succ, or_assoc]
  | pass marks node p todo below done roots hp =>
    obtain ⟨-, -, -, hle⟩ := hl.top
    simp [Event.Happened, cursor_tail hle, looked_cons_succ, or_assoc]

/-- **A step adds what happens in it**, and nothing that has happened is undone. -/
theorem happened_step (hl : l.Inv count predecessors) (h : Step predecessors l happened m) :
    e.Happened count predecessors m ↔ e.Happened count predecessors l ∨ e ∈ happened := by
  cases e with
  | root position => exact happened_root_step hl h
  | push position => exact happened_push_step h
  | look position entry => exact happened_look_step hl h
  | pop position => exact happened_pop_step h

/-- **What happens next has not happened.** That goes for the last step of the loop as well. -/
theorem new_of_mem_events (hl : l.Inv count predecessors) (he : e ∈ l.events predecessors) :
    e.Within count predecessors ∧ ¬ e.Happened count predecessors l := by
  -- A root and an entry of a list are pushed alike.
  have hpushed {p : Nat} (he : e ∈ l.pushes p) :
      e.Within count predecessors ∧ ¬ e.Happened count predecessors l := by
    obtain ⟨hp, rfl⟩ := mem_pushes_iff.1 he
    obtain ⟨hlt, hpath, hdone⟩ := hl.unvisited hp
    exact ⟨hlt, not_or.2 ⟨hpath, hdone⟩⟩
  obtain ⟨⟨marks, path, done⟩, roots⟩ := l
  match path, roots with
  | [], [] => simp [events] at he
  | [], root :: roots =>
    rcases List.mem_cons.1 he with rfl | he
    · obtain ⟨hlt, -⟩ := hl.root
      exact ⟨hlt, by simp [Event.Happened]⟩
    · exact hpushed he
  | ⟨node, []⟩ :: below, roots =>
    obtain rfl : e = .pop node := by simpa [events] using he
    obtain ⟨hlt, hdone, -, -⟩ := hl.top
    exact ⟨hlt, hdone⟩
  | ⟨node, p :: todo⟩ :: below, roots =>
    rcases List.mem_cons.1 he with rfl | he
    · obtain ⟨hlt, hdone, hbelow, hle⟩ := hl.top
      refine ⟨⟨hlt, cursor_lt hle⟩, ?_⟩
      rintro (⟨hmem, -⟩ | hlooked)
      · exact hdone hmem
      · rw [stack_cons, looked_cons] at hlooked
        rcases hlooked with ⟨-, hbefore⟩ | hlooked
        · omega
        · exact hbelow hlooked.mem
    · exact hpushed he

theorem events_nodup (l : Loop) : (l.events predecessors).Nodup := by
  have hpushed (p : Nat) (e : Event) (hne : e ≠ .push p) : (e :: l.pushes p).Nodup := by
    refine List.nodup_cons.2 ⟨fun he => hne (mem_pushes_iff.1 he).2, ?_⟩
    rw [pushes]
    split <;> simp
  rw [events]
  split
  · exact List.nodup_nil
  · exact hpushed _ _ (by simp)
  · exact List.nodup_singleton _
  · exact hpushed _ _ (by simp)

end Loop

end Dataflow.Order
