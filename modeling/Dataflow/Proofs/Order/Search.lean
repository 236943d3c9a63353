import Dataflow.Graph.Order
import Mathlib.Data.List.Chain
import Mathlib.Data.List.Nodup
import Mathlib.Logic.Relation
/-!
The depth-first search over positions.

The search is a machine whose state is a path of frames, and a round is one of three moves or the end. The moves
are told apart once (`Search.Move`), an invariant is carried over each of them (`Search.Inv.move`), and a whole
search is a chain of moves (`Search.run_spec`). What comes of it is the theorem about `positions`: the list it
yields is settled, every position behind all those that it takes from, or else the positions that it reports are
a closed walk.

Positions and predecessors are numbers and lists of numbers here. Which nodes they stand for is the subject of
`Proofs.Order.Execution`.
-/

set_option autoImplicit false

namespace Dataflow.Order

variable {count : Nat} {predecessors : Nat → List Nat} {s t : Search}

/-! ## Moves -/

/-- The positions on the path, deepest first. -/
def Search.onPath (s : Search) : List Nat := s.path.map Frame.node

/-- What a round does to a search that goes on. -/
inductive Search.Move (predecessors : Nat → List Nat) : Search → Search → Prop where
  /-- The deepest node has nothing left to look at and is listed. -/
  | finish (marks : Array Mark) (node : Nat) (below : List Frame) (done : List Nat) :
    Move predecessors ⟨marks, ⟨node, []⟩ :: below, done⟩
      ⟨marks.setIfInBounds node .finished, below, node :: done⟩
  /-- A predecessor seen for the first time is taken onto the path. -/
  | enter (marks : Array Mark) (node p : Nat) (todo : List Nat) (below : List Frame) (done : List Nat)
      (hp : marks[p]? = some .unvisited) :
    Move predecessors ⟨marks, ⟨node, p :: todo⟩ :: below, done⟩
      ⟨marks.setIfInBounds p .inProgress, ⟨p, predecessors p⟩ :: ⟨node, todo⟩ :: below, done⟩
  /-- A predecessor that is listed, or that is no position, is passed over. -/
  | pass (marks : Array Mark) (node p : Nat) (todo : List Nat) (below : List Frame) (done : List Nat)
      (hp : marks[p]? = some .finished ∨ marks[p]? = none) :
    Move predecessors ⟨marks, ⟨node, p :: todo⟩ :: below, done⟩ ⟨marks, ⟨node, todo⟩ :: below, done⟩

/-- A search that goes on has made one of the moves. -/
theorem Search.move_of_round (h : s.round predecessors = .next t) : s.Move predecessors t := by
  obtain ⟨marks, path, done⟩ := s
  match path with
  | [] => simp [Search.round] at h
  | ⟨node, []⟩ :: below =>
    obtain rfl : _ = t := by simpa [Search.round] using h
    exact .finish marks node below done
  | ⟨node, p :: todo⟩ :: below =>
    simp only [Search.round] at h
    split at h
    · rename_i hp
      obtain rfl : _ = t := by simpa using h
      exact .enter marks node p todo below done hp
    · simp at h
    · rename_i hp
      obtain rfl : _ = t := by simpa using h
      exact .pass marks node p todo below done (.inl hp)
    · rename_i hp
      obtain rfl : _ = t := by simpa using h
      exact .pass marks node p todo below done (.inr hp)

/-- A search that ends has an empty path. -/
theorem Search.path_eq_nil_of_round (h : s.round predecessors = .finished) : s.path = [] := by
  obtain ⟨marks, path, done⟩ := s
  match path with
  | [] => rfl
  | ⟨node, []⟩ :: below => simp [Search.round] at h
  | ⟨node, p :: todo⟩ :: below =>
    simp only [Search.round] at h
    split at h <;> simp at h

/-- A search reports a cycle where the deepest node is about to look at a position of its own path. -/
theorem Search.round_eq_cycle {positions : List Nat} (h : s.round predecessors = .cycle positions) :
    ∃ node p todo below, s.path = ⟨node, p :: todo⟩ :: below ∧ s.marks[p]? = some .inProgress ∧
      positions = p :: upTo p s.onPath := by
  obtain ⟨marks, path, done⟩ := s
  match path with
  | [] => simp [Search.round] at h
  | ⟨node, []⟩ :: below => simp [Search.round] at h
  | ⟨node, p :: todo⟩ :: below =>
    simp only [Search.round] at h
    split at h
    · simp at h
    · rename_i hp
      obtain rfl : _ = positions := by simpa using h
      exact ⟨node, p, todo, below, rfl, hp, rfl⟩
    · simp at h
    · simp at h

/-- A search is a chain of moves up to an empty path or up to a round that reports a cycle. -/
theorem Search.run_spec (predecessors : Nat → List Nat) (s : Search) :
    match s.run predecessors with
    | .ok t => Relation.ReflTransGen (Search.Move predecessors) s t ∧ t.path = []
    | .error positions => ∃ t, Relation.ReflTransGen (Search.Move predecessors) s t ∧
        t.round predecessors = .cycle positions := by
  fun_induction Search.run predecessors s with
  | case1 s h => exact ⟨.refl, path_eq_nil_of_round h⟩
  | case2 s positions h => exact ⟨s, .refl, h⟩
  | case3 s t h ih =>
    have hmove : s.Move predecessors t := move_of_round h
    split at ih
    · exact ⟨.head hmove ih.1, ih.2⟩
    · obtain ⟨u, hu, hcycle⟩ := ih
      exact ⟨u, .head hmove hu, hcycle⟩

/-! ## The invariant -/

/-- A list of finished positions, latest first, in which every position has all those it takes from behind it. -/
def Settled (predecessors : Nat → List Nat) : List Nat → Prop
  | [] => True
  | x :: earlier => (∀ p ∈ predecessors x, p ∈ earlier) ∧ Settled predecessors earlier

/-- A path below the position that it leads to, if it leads to one. Each frame was left for a predecessor of
its node, and what it does not look at any more is listed, but for that one. -/
def Linked (predecessors : Nat → List Nat) (done : List Nat) : Option Nat → List Frame → Prop
  | _, [] => True
  | above, f :: below =>
    (∀ a ∈ above, a ∈ predecessors f.node) ∧
    (∀ p ∈ predecessors f.node, p ∈ f.todo ∨ p ∈ done ∨ p ∈ above) ∧
    f.todo <:+ predecessors f.node ∧ Linked predecessors done (some f.node) below

/-- What holds of a search between two rounds. -/
structure Search.Inv (count : Nat) (predecessors : Nat → List Nat) (s : Search) : Prop where
  size : s.marks.size = count
  inProgress : ∀ i, s.marks[i]? = some .inProgress ↔ i ∈ s.onPath
  finished : ∀ i, s.marks[i]? = some .finished ↔ i ∈ s.done
  path_nodup : s.onPath.Nodup
  done_nodup : s.done.Nodup
  linked : Linked predecessors s.done none s.path
  settled : Settled predecessors s.done

/-- Listing the position that a path leads to takes it off the path. -/
theorem Linked.finish {done : List Nat} {node : Nat} {below : List Frame}
    (h : Linked predecessors done (some node) below) : Linked predecessors (node :: done) none below := by
  -- Only the first frame leads to `node`; further down the list of finished positions just grows.
  have mono (above : Option Nat) (path : List Frame) (hpath : Linked predecessors done above path) :
      Linked predecessors (node :: done) above path := by
    induction path generalizing above with
    | nil => trivial
    | cons f path ih =>
      obtain ⟨hfrom, hlooked, htodo, hrest⟩ := hpath
      refine ⟨hfrom, fun p hp => ?_, htodo, ih _ hrest⟩
      rcases hlooked p hp with h | h | h
      · exact .inl h
      · exact .inr (.inl (List.mem_cons_of_mem _ h))
      · exact .inr (.inr h)
  cases below with
  | nil => trivial
  | cons f below =>
    obtain ⟨-, hlooked, htodo, hrest⟩ := h
    refine ⟨by simp, fun p hp => ?_, htodo, mono _ _ hrest⟩
    rcases hlooked p hp with h | h | h
    · exact .inl h
    · exact .inr (.inl (List.mem_cons_of_mem _ h))
    · obtain rfl : node = p := by simpa using h
      exact .inr (.inl (List.mem_cons_self ..))

/-- The deepest frame is done with a predecessor that is listed or that the path now leads to. -/
theorem Linked.look {done : List Nat} {node p : Nat} {todo : List Nat} {below : List Frame} {above : Option Nat}
    (h : Linked predecessors done none (⟨node, p :: todo⟩ :: below)) (habove : ∀ a ∈ above, a = p)
    (hp : p ∈ done ∨ p ∈ above) : Linked predecessors done above (⟨node, todo⟩ :: below) := by
  obtain ⟨-, hlooked, htodo, hrest⟩ := h
  refine ⟨fun a ha => ?_, fun q hq => ?_, (List.suffix_cons p todo).trans htodo, hrest⟩
  · rw [habove a ha]
    exact htodo.subset (List.mem_cons_self ..)
  · rcases hlooked q hq with h | h | h
    · rcases List.mem_cons.1 h with rfl | h
      · exact .inr hp
      · exact .inl h
    · exact .inr (.inl h)
    · simp at h

/-! ## Marks -/

/-- A mark is read back at its own place and nowhere else. -/
theorem getElem?_setIfInBounds_iff {marks : Array Mark} {i j : Nat} {m n : Mark} (hi : i < marks.size) :
    (marks.setIfInBounds i m)[j]? = some n ↔ if j = i then m = n else marks[j]? = some n := by
  rw [Array.getElem?_setIfInBounds]
  by_cases hij : j = i
  · subst hij
    simp [hi]
  · simp [hij, Ne.symm hij]

theorem lt_size_of_mark {marks : Array Mark} {i : Nat} {m : Mark} (h : marks[i]? = some m) : i < marks.size :=
  (Array.getElem?_eq_some_iff.1 h).1

/-- What a move has marked stays marked. -/
theorem Search.Move.unvisited (h : s.Move predecessors t) {i : Nat} (hi : t.marks[i]? = some .unvisited) :
    s.marks[i]? = some .unvisited := by
  have unset {marks : Array Mark} {j : Nat} {m : Mark} (hm : m ≠ .unvisited)
      (h : (marks.setIfInBounds j m)[i]? = some .unvisited) : marks[i]? = some .unvisited := by
    rw [Array.getElem?_setIfInBounds] at h
    split at h
    · split at h
      · exact absurd (Option.some.inj h) hm
      · simp at h
    · exact h
  cases h with
  | finish marks node below done => exact unset (by decide) hi
  | enter marks node p todo below done hp => exact unset (by decide) hi
  | pass marks node p todo below done hp => exact hi

/-! ## The invariant over moves -/

/-- Taking an unvisited position onto the path. The path below may have moved on, but holds the same nodes. -/
theorem Search.Inv.take (hs : s.Inv count predecessors) {p : Nat} {path : List Frame}
    (hp : s.marks[p]? = some .unvisited) (hnodes : path.map Frame.node = s.onPath)
    (hlinked : Linked predecessors s.done (some p) path) :
    Search.Inv count predecessors
      ⟨s.marks.setIfInBounds p .inProgress, ⟨p, predecessors p⟩ :: path, s.done⟩ := by
  have hlt : p < s.marks.size := lt_size_of_mark hp
  have hoff : p ∉ s.onPath := fun hmem => by
    have := (hs.inProgress p).2 hmem
    rw [hp] at this
    simp at this
  have hunlisted : p ∉ s.done := fun hmem => by
    have := (hs.finished p).2 hmem
    rw [hp] at this
    simp at this
  have honPath : Search.onPath ⟨s.marks.setIfInBounds p .inProgress, ⟨p, predecessors p⟩ :: path, s.done⟩
      = p :: s.onPath := by
    rw [← hnodes]
    rfl
  refine ⟨by simpa using hs.size, fun i => ?_, fun i => ?_, ?_, hs.done_nodup,
    ⟨by simp, fun q hq => .inl hq, List.suffix_refl _, hlinked⟩, hs.settled⟩
  · rw [getElem?_setIfInBounds_iff hlt, honPath, List.mem_cons]
    by_cases hi : i = p
    · simp [hi]
    · simpa [hi] using hs.inProgress i
  · rw [getElem?_setIfInBounds_iff hlt]
    by_cases hi : i = p
    · simpa [hi] using hunlisted
    · simpa [hi] using hs.finished i
  · rw [honPath]
    exact List.nodup_cons.2 ⟨hoff, hs.path_nodup⟩

/-- Listing the deepest node once it has nothing left to look at. -/
theorem Search.Inv.list {marks : Array Mark} {node : Nat} {below : List Frame} {done : List Nat}
    (hs : Search.Inv count predecessors ⟨marks, ⟨node, []⟩ :: below, done⟩) :
    Search.Inv count predecessors ⟨marks.setIfInBounds node .finished, below, node :: done⟩ := by
  obtain ⟨hsize, hin, hfin, hpath, hdone, ⟨-, hlooked, -, hrest⟩, hsettled⟩ := hs
  simp only [Search.onPath, List.map_cons] at hin hpath
  obtain ⟨hnode, hbelow⟩ := List.nodup_cons.1 hpath
  have hmark : marks[node]? = some .inProgress := (hin node).2 (List.mem_cons_self ..)
  have hlt : node < marks.size := lt_size_of_mark hmark
  have hunlisted : node ∉ done := fun hmem => by
    have := (hfin node).2 hmem
    rw [hmark] at this
    simp at this
  refine ⟨by simpa using hsize, fun i => ?_, fun i => ?_, hbelow, List.nodup_cons.2 ⟨hunlisted, hdone⟩,
    hrest.finish, fun p hp => ?_, hsettled⟩
  · rw [getElem?_setIfInBounds_iff hlt]
    by_cases hi : i = node
    · simpa [hi, Search.onPath] using hnode
    · simpa [hi, Search.onPath] using hin i
  · rw [getElem?_setIfInBounds_iff hlt]
    by_cases hi : i = node
    · simp [hi]
    · simpa [hi] using hfin i
  · rcases hlooked p hp with h | h | h
    · simp at h
    · exact h
    · simp at h

/-- Every move keeps the invariant. -/
theorem Search.Inv.move (hbound : ∀ i, ∀ p ∈ predecessors i, p < count) (hs : s.Inv count predecessors)
    (h : s.Move predecessors t) : t.Inv count predecessors := by
  cases h with
  | finish marks node below done => exact hs.list
  | enter marks node p todo below done hp =>
    have hlinked : Linked predecessors done (some p) (⟨node, todo⟩ :: below) :=
      hs.linked.look (by simp) (.inr rfl)
    exact hs.take hp rfl hlinked
  | pass marks node p todo below done hp =>
    obtain ⟨-, -, htodo, -⟩ := hs.linked
    have hlt : p < marks.size := by
      rw [hs.size]
      exact hbound node p (htodo.subset (List.mem_cons_self ..))
    -- A position without a mark would be beyond the count, so `p` is listed.
    have hlisted : p ∈ done := by
      rcases hp with hp | hp
      · exact (hs.finished p).1 hp
      · exact absurd (Array.getElem?_eq_none_iff.1 hp) (by omega)
    exact ⟨hs.size, hs.inProgress, hs.finished, hs.path_nodup, hs.done_nodup,
      hs.linked.look (by simp) (.inl hlisted), hs.settled⟩

/-- A chain of moves keeps the invariant and every mark. -/
theorem Search.Inv.moves (hbound : ∀ i, ∀ p ∈ predecessors i, p < count) (hs : s.Inv count predecessors)
    (h : Relation.ReflTransGen (Search.Move predecessors) s t) :
    t.Inv count predecessors ∧ ∀ i : Nat, t.marks[i]? = some .unvisited → s.marks[i]? = some .unvisited := by
  induction h with
  | refl => exact ⟨hs, fun _ hi => hi⟩
  | tail _ hmove ih => exact ⟨ih.1.move hbound hmove, fun i hi => ih.2 i (hmove.unvisited hi)⟩

/-! ## Cycles -/

/-- A walk along a relation from `x` back to `x`, through others that are all different. -/
def ClosedWalk {α : Type*} (R : α → α → Prop) (x : α) (walk : List α) : Prop :=
  ∃ inner, walk = x :: (inner ++ [x]) ∧ (x :: inner).Nodup ∧ walk.IsChain R

/-- Something on a closed walk can be reached from itself. -/
theorem ClosedWalk.transGen {α : Type*} {R : α → α → Prop} {x : α} {walk : List α} (h : ClosedWalk R x walk) :
    Relation.TransGen R x x := by
  obtain ⟨inner, rfl, -, hchain⟩ := h
  cases inner with
  | nil =>
    rw [List.nil_append, List.isChain_pair] at hchain
    exact .single hchain
  | cons y inner =>
    obtain ⟨hfirst, hrest⟩ := List.isChain_cons_cons.1 hchain
    have hreach : Relation.ReflTransGen R y x := by
      refine List.relationReflTransGen_of_exists_isChain_cons (inner ++ [x]) hrest ?_
      simp
    exact .head' hfirst hreach

/-- The frames of a path follow each other as predecessors do. -/
theorem Linked.isChain {done : List Nat} {above : Option Nat} {path : List Frame}
    (h : Linked predecessors done above path) :
    (path.map Frame.node).IsChain fun a b => a ∈ predecessors b := by
  induction path generalizing above with
  | nil => exact .nil
  | cons f path ih =>
    obtain ⟨-, -, -, hrest⟩ := h
    cases path with
    | nil => exact .singleton _
    | cons g path => exact .cons_cons (hrest.1 f.node rfl) (ih hrest)

theorem upTo_eq {x : Nat} {l : List Nat} (h : x ∈ l) :
    ∃ inner rest, l = inner ++ x :: rest ∧ upTo x l = inner ++ [x] := by
  induction l with
  | nil => simp at h
  | cons y l ih =>
    by_cases hy : y = x
    · exact ⟨[], l, by simp [hy], by simp [upTo, hy]⟩
    · have hx : x ∈ l := (List.mem_cons.1 h).resolve_left (Ne.symm hy)
      obtain ⟨inner, rest, hl, hup⟩ := ih hx
      exact ⟨y :: inner, rest, by rw [hl]; rfl, by simp [upTo, hy, hup]⟩

/-- What a round reports is a closed walk in the direction of the connections. -/
theorem Search.Inv.closedWalk (hs : s.Inv count predecessors) {positions : List Nat}
    (h : s.round predecessors = .cycle positions) :
    (∃ x, ClosedWalk (fun a b => a ∈ predecessors b) x positions) ∧ ∀ i ∈ positions, i < count := by
  obtain ⟨node, p, todo, below, hpath, hmark, rfl⟩ := round_eq_cycle h
  have hmem : p ∈ s.onPath := (hs.inProgress p).1 hmark
  obtain ⟨inner, rest, hsplit, hup⟩ := upTo_eq hmem
  have hlinked := hs.linked
  rw [hpath] at hlinked
  have hchain : (p :: s.onPath).IsChain fun a b => a ∈ predecessors b := by
    rw [Search.onPath, hpath]
    exact .cons_cons (hlinked.2.2.1.subset (List.mem_cons_self ..)) hlinked.isChain
  -- From `p` the walk goes to the deepest node, which was about to look at `p`, and along the path to `p` again.
  have hnodup := hs.path_nodup
  rw [hsplit] at hnodup
  refine ⟨⟨p, inner, by rw [hup], ?_, ?_⟩, fun i hi => ?_⟩
  · exact (List.nodup_middle.1 hnodup).sublist ((List.sublist_append_left inner rest).cons_cons p)
  · refine hchain.prefix ?_
    rw [hup, hsplit]
    exact ⟨rest, by simp⟩
  · have hi : i ∈ s.onPath := by
      rcases List.mem_cons.1 hi with rfl | hi
      · exact hmem
      · rw [hup] at hi
        rw [hsplit]
        exact (List.mem_append.1 hi).elim (fun h => List.mem_append_left _ h)
          (fun h => List.mem_append_right _ (List.mem_singleton.1 h ▸ List.mem_cons_self ..))
    rw [← hs.size]
    exact lt_size_of_mark ((hs.inProgress i).2 hi)

/-! ## The whole search -/

/-- What holds of a search between two roots, once the given roots have been searched from. -/
structure Search.Rests (count : Nat) (predecessors : Nat → List Nat) (roots : List Nat) (s : Search) : Prop where
  inv : s.Inv count predecessors
  path : s.path = []
  visited : ∀ root ∈ roots, root ∈ s.done

/-- Between two roots every position is listed or unvisited. -/
theorem Search.Rests.mem_done {roots : List Nat} (hs : s.Rests count predecessors roots) {i : Nat} (hi : i < count)
    (hmark : s.marks[i]? ≠ some .unvisited) : i ∈ s.done := by
  have hlt : i < s.marks.size := by rw [hs.inv.size]; exact hi
  have hoff : s.marks[i]? ≠ some .inProgress := fun h => by
    have := (hs.inv.inProgress i).1 h
    simp [Search.onPath, hs.path] at this
  refine (hs.inv.finished i).1 ?_
  rw [Array.getElem?_eq_getElem hlt] at hmark hoff ⊢
  cases hm : s.marks[i] with
  | unvisited => simp [hm] at hmark
  | inProgress => simp [hm] at hoff
  | finished => rfl

/-- A search from one more root. -/
theorem Search.Rests.visit (hbound : ∀ i, ∀ p ∈ predecessors i, p < count) {roots : List Nat}
    (hs : s.Rests count predecessors roots) {root : Nat} (hroot : root < count) :
    match s.visit predecessors root with
    | .ok t => t.Rests count predecessors (roots ++ [root])
    | .error positions => (∃ x, ClosedWalk (fun a b => a ∈ predecessors b) x positions) ∧
        ∀ i ∈ positions, i < count := by
  rw [Search.visit]
  split_ifs with hmark
  · set start : Search := ⟨s.marks.setIfInBounds root .inProgress, [⟨root, predecessors root⟩], s.done⟩ with hstart
    have hinv : start.Inv count predecessors :=
      hs.inv.take hmark (by simp [Search.onPath, hs.path]) trivial
    have hrun := Search.run_spec predecessors start
    split at hrun
    · rename_i t hok
      obtain ⟨hmoves, hpath⟩ := hrun
      obtain ⟨ht, hunvisited⟩ := hinv.moves hbound hmoves
      -- With an empty path, whatever was marked at the start has been listed by now.
      have hrests : t.Rests count predecessors [] := ⟨ht, hpath, by simp⟩
      have hkept {i : Nat} (hi : i < count) (hstartmark : start.marks[i]? ≠ some .unvisited) : i ∈ t.done :=
        hrests.mem_done hi fun h => hstartmark (hunvisited i h)
      have hrootmark : start.marks[root]? = some .inProgress :=
        (hinv.inProgress root).2 (List.mem_singleton_self root)
      refine ⟨ht, hpath, fun r hr => ?_⟩
      rcases List.mem_append.1 hr with hr | hr
      · have hfin : start.marks[r]? = some .finished := (hinv.finished r).2 (hs.visited r hr)
        refine hkept ?_ (by simp [hfin])
        rw [← hinv.size]
        exact lt_size_of_mark hfin
      · obtain rfl := List.mem_singleton.1 hr
        exact hkept hroot (by simp [hrootmark])
    · rename_i positions herror
      obtain ⟨t, hmoves, hcycle⟩ := hrun
      exact (hinv.moves hbound hmoves).1.closedWalk hcycle
  · refine ⟨hs.inv, hs.path, fun r hr => ?_⟩
    rcases List.mem_append.1 hr with hr | hr
    · exact hs.visited r hr
    · obtain rfl := List.mem_singleton.1 hr
      exact hs.mem_done hroot hmark

/-- Searches from several roots, one after the other. -/
theorem Search.Rests.foldlM_visit (hbound : ∀ i, ∀ p ∈ predecessors i, p < count) {before : List Nat}
    (hs : s.Rests count predecessors before) (roots : List Nat) (hroots : ∀ root ∈ roots, root < count) :
    match roots.foldlM (Search.visit predecessors) s with
    | .ok t => t.Rests count predecessors (before ++ roots)
    | .error positions => (∃ x, ClosedWalk (fun a b => a ∈ predecessors b) x positions) ∧
        ∀ i ∈ positions, i < count := by
  induction roots generalizing s before with
  | nil =>
    rw [List.append_nil]
    exact hs
  | cons root roots ih =>
    have hvisit := hs.visit hbound (hroots root (List.mem_cons_self ..))
    rw [List.foldlM_cons]
    cases hone : s.visit predecessors root with
    | error positions =>
      rw [hone] at hvisit
      exact hvisit
    | ok t =>
      rw [hone] at hvisit
      have := ih hvisit fun r hr => hroots r (List.mem_cons_of_mem _ hr)
      rw [List.append_assoc] at this
      exact this

/-- The start of the search, before its first root. -/
theorem Search.Rests.start (count : Nat) (predecessors : Nat → List Nat) :
    Search.Rests count predecessors [] ⟨Array.replicate count .unvisited, [], []⟩ := by
  have hmarks (i : Nat) (m : Mark) (hm : m ≠ .unvisited) :
      ¬ (Array.replicate count Mark.unvisited)[i]? = some m := fun h => by
    obtain ⟨hlt, hget⟩ := Array.getElem?_eq_some_iff.1 h
    rw [Array.getElem_replicate] at hget
    exact hm hget.symm
  refine ⟨⟨by simp, fun i => ?_, fun i => ?_, by simp [Search.onPath], by simp, trivial, trivial⟩, rfl, by simp⟩
  · simpa [Search.onPath] using hmarks i .inProgress (by decide)
  · simpa using hmarks i .finished (by decide)

/-- **The search over positions.** It lists every position once, behind all those that it takes from, or it
reports a closed walk among the positions. -/
theorem positions_spec (hbound : ∀ i, ∀ p ∈ predecessors i, p < count) :
    match positions count predecessors with
    | .ok order => order.Perm (List.range count) ∧ Settled predecessors order.reverse
    | .error cycle => (∃ x, ClosedWalk (fun a b => a ∈ predecessors b) x cycle) ∧ ∀ i ∈ cycle, i < count := by
  have hfold := (Search.Rests.start count predecessors).foldlM_visit hbound (List.range count)
    fun root hroot => List.mem_range.1 hroot
  simp only [positions]
  split at hfold
  · rename_i t hok
    obtain ⟨hinv, -, hvisited⟩ := hfold
    rw [hok]
    refine ⟨?_, by simpa using hinv.settled⟩
    refine (List.perm_ext_iff_of_nodup (List.nodup_reverse.2 hinv.done_nodup) List.nodup_range).2 fun i => ?_
    rw [List.mem_reverse, List.mem_range]
    constructor
    · intro hi
      rw [← hinv.size]
      exact lt_size_of_mark ((hinv.finished i).2 hi)
    · intro hi
      exact hvisited i (List.mem_append_right _ (List.mem_range.2 hi))
  · rename_i cycle herror
    rw [herror]
    exact hfold

end Dataflow.Order
