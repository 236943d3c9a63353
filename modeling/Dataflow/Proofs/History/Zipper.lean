import Dataflow.History
import Mathlib.Data.List.Basic
/-!
A history as a zipper.

A history keeps its snapshots in one list and the place of the current one beside it, so every operation has to keep
the two in step. The ideal history has no places: it is the current snapshot between those before it and those after
it (`Zipper`), and an operation takes a snapshot from one side to the other. The main statement is that a history
answers every sequence of requests as the ideal one does and shows the same snapshots with the same one current
(`History.replies_agree`), and says what follows for the snapshots that there are at any time.
-/

set_option autoImplicit false

namespace Dataflow

/-! ## Requests -/

namespace History

/-- What a history is asked for. -/
inductive Request where
  | push (w : Workflow) (description : String)
  | undo
  | redo
  | goTo (id : Nat)
  | clear

/-- What it answers. -/
inductive Answer where
  /-- The id of a new snapshot. -/
  | id (n : Nat)
  /-- The workflow to return to. -/
  | workflow (w : Workflow)
  /-- There is no snapshot to go to. -/
  | nothing
  | done

/-- What a move comes to, if there is one; the history remains where there is none. -/
def moved (h : History) : Option (Workflow × History) → Answer × History
  | some (w, v) => (.workflow w, v)
  | none => (.nothing, h)

def perform (h : History) : Request → Answer × History
  | .push w description => (.id (h.push w description).lastId, h.push w description)
  | .undo => h.moved h.undo
  | .redo => h.moved h.redo
  | .goTo id => h.moved (h.goTo id)
  | .clear => (.done, h.clear)

/-- The answers to requests one after the other, and the history after them. -/
def replies (h : History) : List Request → List Answer × History
  | [] => ([], h)
  | r :: rs =>
    let (answers, v) := (h.perform r).2.replies rs
    ((h.perform r).1 :: answers, v)

end History

/-! ## The ideal history -/

/-- A snapshot between others. -/
structure Zipper where
  /-- The snapshots before it, newest first. -/
  past : List Snapshot
  current : Snapshot
  /-- The snapshots after it, oldest first. -/
  future : List Snapshot

namespace Zipper

/-- All snapshots, oldest first. -/
def entries (z : Zipper) : List Snapshot := z.past.reverse ++ z.current :: z.future

/-- The first snapshot with an id among some that follow others. -/
def seek (id : Nat) (past : List Snapshot) : List Snapshot → Option Zipper
  | [] => none
  | s :: future => if s.id = id then some ⟨past, s, future⟩ else seek id (s :: past) future

end Zipper

/-- The ideal history: no snapshot or a current one between others, and the number of all that were ever taken. -/
structure Timeline where
  marked : Option Zipper
  taken : Nat

namespace Timeline

def empty : Timeline := ⟨none, 0⟩

/-- The snapshots up to the current one, newest first. -/
def present (t : Timeline) : List Snapshot :=
  match t.marked with
  | none => []
  | some z => z.current :: z.past

/-- A new snapshot drops what comes after the current one, and the oldest snapshots beyond the limit. -/
def push (limit : Nat) (t : Timeline) (w : Workflow) (description : String) : Timeline :=
  ⟨some ⟨t.present.take (Nat.max limit 1 - 1), ⟨t.taken + 1, description, w⟩, []⟩, t.taken + 1⟩

/-- One snapshot back. -/
def undo (t : Timeline) : Option Zipper :=
  match t.marked with
  | some ⟨s :: past, current, future⟩ => some ⟨past, s, current :: future⟩
  | _ => none

/-- One snapshot on. -/
def redo (t : Timeline) : Option Zipper :=
  match t.marked with
  | some ⟨past, current, s :: future⟩ => some ⟨current :: past, s, future⟩
  | _ => none

/-- To the snapshot with an id. -/
def goTo (t : Timeline) (id : Nat) : Option Zipper := t.marked.bind fun z => Zipper.seek id [] z.entries

def clear (t : Timeline) : Timeline := ⟨none, t.taken⟩

def moved (t : Timeline) : Option Zipper → History.Answer × Timeline
  | some z => (.workflow z.current.workflow, ⟨some z, t.taken⟩)
  | none => (.nothing, t)

def perform (limit : Nat) (t : Timeline) : History.Request → History.Answer × Timeline
  | .push w description => (.id (t.taken + 1), t.push limit w description)
  | .undo => t.moved t.undo
  | .redo => t.moved t.redo
  | .goTo id => t.moved (t.goTo id)
  | .clear => (.done, t.clear)

def replies (limit : Nat) (t : Timeline) : List History.Request → List History.Answer × Timeline
  | [] => ([], t)
  | r :: rs =>
    let (answers, v) := (t.perform limit r).2.replies limit rs
    ((t.perform limit r).1 :: answers, v)

/-- All snapshots, oldest first. -/
def entries (t : Timeline) : List Snapshot :=
  match t.marked with
  | none => []
  | some z => z.entries

/-- The history that shows an ideal one. -/
def history (limit : Nat) (t : Timeline) : History where
  entries := t.entries
  cursor := t.marked.map (·.past.length)
  limit := Nat.max limit 1
  lastId := t.taken

end Timeline

/-! ## Every operation beside the ideal one -/

namespace Zipper

variable {z : Zipper}

theorem getElem?_entries (z : Zipper) : z.entries[z.past.length]? = some z.current := by
  rw [entries, ← List.length_reverse, List.getElem?_append_right (Nat.le_refl _), Nat.sub_self,
    List.getElem?_cons_zero]

theorem length_entries (z : Zipper) : z.entries.length = z.past.length + 1 + z.future.length := by
  rw [entries, List.length_append, List.length_reverse, List.length_cons]
  omega

/-- The snapshot arrived at is the first with the id, and no other snapshot is lost. -/
theorem seek_spec {id : Nat} {past future : List Snapshot} (h : seek id past future = some z) :
    z.entries = past.reverse ++ future ∧ z.current.id = id ∧
      future.findIdx? (·.id == id) = some (z.past.length - past.length) ∧ past.length ≤ z.past.length := by
  -- On the snapshots to come. One that is passed over joins those before, which puts off the place by one.
  induction future generalizing past with
  | nil => cases h
  | cons s future ih =>
    rw [seek] at h
    by_cases hid : s.id = id
    · rw [if_pos hid] at h
      obtain rfl := Option.some.inj h
      refine ⟨rfl, hid, ?_, Nat.le_refl _⟩
      rw [List.findIdx?_cons, if_pos (by simpa using hid), Nat.sub_self]
    · rw [if_neg hid] at h
      obtain ⟨hentries, hcurrent, hfind, hle⟩ := ih h
      rw [List.length_cons] at hfind hle
      refine ⟨?_, hcurrent, ?_, by omega⟩
      · rw [hentries, List.reverse_cons, List.append_assoc, List.singleton_append]
      · rw [List.findIdx?_cons, if_neg (by simpa using hid), hfind, Option.map_some]
        congr 1
        omega

theorem seek_eq_none_iff {id : Nat} {past future : List Snapshot} :
    seek id past future = none ↔ ∀ s ∈ future, s.id ≠ id := by
  induction future generalizing past with
  | nil => exact ⟨fun _ s hs => (nomatch hs), fun _ => rfl⟩
  | cons s future ih =>
    rw [seek, List.forall_mem_cons]
    by_cases hid : s.id = id
    · simp [hid]
    · simp [hid, ih]

end Zipper

namespace Timeline

variable {limit : Nat} {t : Timeline} {z : Zipper}

/-- The newest snapshots of a list that ends with `s`. -/
theorem newest_concat (limit : Nat) (older : List Snapshot) (s : Snapshot) :
    History.newest (limit + 1) (older.reverse ++ [s]) = (older.take limit).reverse ++ [s] := by
  rw [History.newest, List.length_append, List.length_reverse, List.length_singleton,
    List.drop_append_of_le_length (by rw [List.length_reverse]; omega), List.reverse_take]
  congr 2
  omega

/-- To move among the snapshots there are is to make another one the current one. -/
theorem moveTo_history {y : Zipper} {taken : Nat} (h : z.entries = y.entries) :
    (history limit ⟨some y, taken⟩).moveTo z.past.length =
      some (z.current.workflow, history limit ⟨some z, taken⟩) := by
  have hmove (place : Nat) : (history limit ⟨some y, taken⟩).moveTo place =
      (y.entries[place]?).map fun s => (s.workflow, ⟨y.entries, some place, Nat.max limit 1, taken⟩) := rfl
  rw [hmove, ← h, z.getElem?_entries]
  rfl

/-- The snapshots up to the current one are those up to its place. -/
theorem take_entries (z : Zipper) : z.entries.take (z.past.length + 1) = (z.current :: z.past).reverse := by
  rw [Zipper.entries, ← List.length_reverse, List.take_length_add_append, List.take_succ_cons, List.take_zero,
    List.reverse_cons]

theorem push_history (w : Workflow) (description : String) :
    (t.history limit).push w description = (t.push limit w description).history limit := by
  have hpush : (t.history limit).push w description =
      let entries := History.newest (Nat.max limit 1) (t.present.reverse ++ [⟨t.taken + 1, description, w⟩])
      ⟨entries, some (entries.length - 1), Nat.max limit 1, t.taken + 1⟩ := by
    obtain ⟨_ | z, taken⟩ := t
    · rfl
    · have hpresent : present ⟨some z, taken⟩ = z.current :: z.past := rfl
      rw [hpresent, ← take_entries]
      rfl
  -- With room for the new snapshot there is room for one fewer of the older ones.
  have hlimit : Nat.max limit 1 = Nat.max limit 1 - 1 + 1 := (Nat.sub_add_cancel (Nat.le_max_right limit 1)).symm
  have hentries : History.newest (Nat.max limit 1) (t.present.reverse ++ [⟨t.taken + 1, description, w⟩]) =
      (t.push limit w description).entries := by
    rw [hlimit, newest_concat]
    rfl
  have hlength : (t.push limit w description).entries.length - 1 =
      (t.present.take (Nat.max limit 1 - 1)).length := by
    rw [entries, push, Zipper.length_entries, List.length_nil, Nat.add_zero, Nat.add_sub_cancel]
  rw [hpush, hentries]
  simp only [hlength]
  rfl

theorem undo_history : (t.history limit).undo =
    t.undo.map fun z => (z.current.workflow, history limit ⟨some z, t.taken⟩) := by
  obtain ⟨_ | ⟨past, current, future⟩, taken⟩ := t
  · rfl
  cases past with
  | nil => rfl
  | cons s past =>
    -- The snapshot before the current one becomes the current one.
    have hentries : Zipper.entries ⟨past, s, current :: future⟩ = Zipper.entries ⟨s :: past, current, future⟩ := by
      simp [Zipper.entries]
    exact moveTo_history hentries

theorem redo_history : (t.history limit).redo =
    t.redo.map fun z => (z.current.workflow, history limit ⟨some z, t.taken⟩) := by
  obtain ⟨_ | ⟨past, current, future⟩, taken⟩ := t
  · rfl
  cases future with
  | nil =>
    have hend : (Zipper.entries ⟨past, current, []⟩)[past.length + 1]? = none :=
      List.getElem?_eq_none_iff.2 (Nat.le_of_eq (Zipper.length_entries _))
    have hredo : (history limit ⟨some ⟨past, current, []⟩, taken⟩).redo =
        (history limit ⟨some ⟨past, current, []⟩, taken⟩).moveTo (past.length + 1) := rfl
    rw [hredo, History.moveTo, history, entries, hend]
    rfl
  | cons s future =>
    have hentries : Zipper.entries ⟨current :: past, s, future⟩ = Zipper.entries ⟨past, current, s :: future⟩ := by
      simp [Zipper.entries]
    exact moveTo_history hentries

theorem goTo_history (id : Nat) : (t.history limit).goTo id =
    (t.goTo id).map fun z => (z.current.workflow, history limit ⟨some z, t.taken⟩) := by
  obtain ⟨_ | y, taken⟩ := t
  · rfl
  have hgoTo : (history limit ⟨some y, taken⟩).goTo id =
      (y.entries.findIdx? (·.id == id)).bind (history limit ⟨some y, taken⟩).moveTo := rfl
  have hseek : goTo ⟨some y, taken⟩ id = Zipper.seek id [] y.entries := rfl
  rw [hgoTo, hseek]
  cases hz : Zipper.seek id [] y.entries with
  | none =>
    have hfind : y.entries.findIdx? (·.id == id) = none :=
      List.findIdx?_eq_none_iff.2 fun s hs => beq_eq_false_iff_ne.2 (Zipper.seek_eq_none_iff.1 hz s hs)
    rw [hfind, Option.bind_none, Option.map_none]
  | some z =>
    obtain ⟨hentries, -, hfind, -⟩ := Zipper.seek_spec hz
    rw [hfind, Option.bind_some, List.length_nil, Nat.sub_zero, moveTo_history hentries, Option.map_some]

theorem moved_history (moved : Option Zipper) : (t.history limit).moved
    (moved.map fun z => (z.current.workflow, history limit ⟨some z, t.taken⟩)) =
      ((t.moved moved).1, (t.moved moved).2.history limit) := by
  cases moved <;> rfl

/-- **Every request** is answered as by the ideal history, and leads to what it leads to. -/
theorem perform_history (r : History.Request) :
    (t.history limit).perform r = ((t.perform limit r).1, (t.perform limit r).2.history limit) := by
  cases r with
  | push w description =>
    rw [History.perform, push_history]
    rfl
  | undo => rw [History.perform, undo_history, moved_history, perform]
  | redo => rw [History.perform, redo_history, moved_history, perform]
  | goTo id => rw [History.perform, goTo_history, moved_history, perform]
  | clear => rfl

theorem replies_history (rs : List History.Request) :
    (t.history limit).replies rs = ((t.replies limit rs).1, (t.replies limit rs).2.history limit) := by
  induction rs generalizing t with
  | nil => rfl
  | cons r rs ih => rw [History.replies, perform_history, ih, replies]

end Timeline

/-! ## What requests keep -/

namespace History

/-- What a request has a snapshot taken of, with its description. -/
def Request.pushed : Request → List (Workflow × String)
  | .push w description => [(w, description)]
  | .undo | .redo | .goTo _ | .clear => []

/-- What some requests have had snapshots taken of. -/
def pushes (rs : List Request) : List (Workflow × String) := rs.flatMap Request.pushed

theorem pushes_cons (r : Request) (rs : List Request) : pushes (r :: rs) = r.pushed ++ pushes rs := rfl

/-- The id that an answer hands out. -/
def Answer.ids : Answer → List Nat
  | .id n => [n]
  | .workflow _ | .nothing | .done => []

end History

namespace Timeline

variable {limit : Nat} {t : Timeline} {z : Zipper} {ps : List (Workflow × String)}

/-- The snapshots that there are, where those of `ps` have been taken. -/
structure Holds (limit : Nat) (ps : List (Workflow × String)) (t : Timeline) : Prop where
  taken : t.taken = ps.length
  length_le : t.entries.length ≤ Nat.max limit 1
  increasing : t.entries.Pairwise fun s u => s.id < u.id
  pushed : ∀ s ∈ t.entries, ∃ n, s.id = n + 1 ∧ ps[n]? = some (s.workflow, s.description)

theorem Holds.id_le (h : t.Holds limit ps) {s : Snapshot} (hs : s ∈ t.entries) : s.id ≤ t.taken := by
  obtain ⟨n, hn, hpushed⟩ := h.pushed s hs
  have hlt := (List.getElem?_eq_some_iff.1 hpushed).1
  rw [h.taken]
  omega

theorem reverse_present_prefix (t : Timeline) : t.present.reverse <+: t.entries := by
  obtain ⟨_ | z, taken⟩ := t
  · exact List.nil_prefix
  · have hpresent : present ⟨some z, taken⟩ = z.current :: z.past := rfl
    rw [hpresent, ← take_entries]
    exact List.take_prefix _ _

theorem entries_push (w : Workflow) (description : String) : (t.push limit w description).entries =
    (t.present.take (Nat.max limit 1 - 1)).reverse ++ [⟨t.taken + 1, description, w⟩] := rfl

/-- A snapshot that is not new has been there before. -/
theorem sublist_present (t : Timeline) (n : Nat) : (t.present.take n).reverse.Sublist t.entries :=
  (List.take_sublist n t.present).reverse.trans t.reverse_present_prefix.sublist

theorem Holds.push (h : t.Holds limit ps) (w : Workflow) (description : String) :
    (t.push limit w description).Holds limit (ps ++ [(w, description)]) where
  taken := by rw [List.length_append, List.length_singleton, ← h.taken, Timeline.push]
  length_le := by
    have hlimit : 1 ≤ Nat.max limit 1 := Nat.le_max_right limit 1
    rw [entries_push, List.length_append, List.length_reverse, List.length_take, List.length_singleton]
    omega
  increasing := by
    rw [entries_push, List.pairwise_append]
    -- The older snapshots were there before, so their ids are at most the number of all taken until now.
    refine ⟨h.increasing.sublist (t.sublist_present _), List.pairwise_singleton _ _, fun s hs u hu => ?_⟩
    have hle := h.id_le ((t.sublist_present _).subset hs)
    rw [List.mem_singleton.1 hu]
    exact Nat.lt_succ_of_le hle
  pushed s hs := by
    rw [entries_push, List.mem_append, List.mem_singleton] at hs
    rcases hs with hs | rfl
    · obtain ⟨n, hn, hpushed⟩ := h.pushed s ((t.sublist_present _).subset hs)
      have hlt := (List.getElem?_eq_some_iff.1 hpushed).1
      exact ⟨n, hn, by rw [List.getElem?_append_left hlt, hpushed]⟩
    · refine ⟨ps.length, by rw [h.taken], ?_⟩
      rw [List.getElem?_append_right (Nat.le_refl _), Nat.sub_self, List.getElem?_cons_zero]

/-- To move is to keep all snapshots. -/
theorem entries_of_undo (h : t.undo = some z) : z.entries = t.entries := by
  obtain ⟨_ | ⟨_ | ⟨s, past⟩, current, future⟩, taken⟩ := t
  · cases h
  · cases h
  · obtain rfl := Option.some.inj h
    simp [entries, Zipper.entries]

theorem entries_of_redo (h : t.redo = some z) : z.entries = t.entries := by
  obtain ⟨_ | ⟨past, current, _ | ⟨s, future⟩⟩, taken⟩ := t
  · cases h
  · cases h
  · obtain rfl := Option.some.inj h
    simp [entries, Zipper.entries]

theorem entries_of_goTo {id : Nat} (h : t.goTo id = some z) : z.entries = t.entries ∧ z.current.id = id := by
  obtain ⟨_ | y, taken⟩ := t
  · cases h
  · obtain ⟨hentries, hid, -⟩ := Zipper.seek_spec h
    exact ⟨hentries, hid⟩

theorem Holds.moved (h : t.Holds limit ps) {move : Option Zipper} (hmove : ∀ z, move = some z → z.entries = t.entries) :
    (t.moved move).2.Holds limit ps := by
  cases move with
  | none => exact h
  | some z =>
    have hentries : entries ⟨some z, t.taken⟩ = t.entries := hmove z rfl
    exact ⟨h.taken, hentries ▸ h.length_le, hentries ▸ h.increasing, hentries ▸ h.pushed⟩

/-- **What every request keeps.** -/
theorem Holds.perform (h : t.Holds limit ps) (r : History.Request) :
    (t.perform limit r).2.Holds limit (ps ++ r.pushed) := by
  cases r with
  | push w description => exact h.push w description
  | undo => rw [History.Request.pushed, List.append_nil]; exact h.moved fun z => entries_of_undo
  | redo => rw [History.Request.pushed, List.append_nil]; exact h.moved fun z => entries_of_redo
  | goTo id => rw [History.Request.pushed, List.append_nil]; exact h.moved fun z hz => (entries_of_goTo hz).1
  | clear =>
    rw [History.Request.pushed, List.append_nil]
    exact ⟨h.taken, Nat.zero_le _, List.Pairwise.nil, fun s hs => nomatch hs⟩

theorem Holds.replies (h : t.Holds limit ps) (rs : List History.Request) :
    (t.replies limit rs).2.Holds limit (ps ++ History.pushes rs) := by
  induction rs generalizing t ps with
  | nil => rwa [History.pushes, List.flatMap_nil, List.append_nil]
  | cons r rs ih =>
    rw [History.pushes_cons, ← List.append_assoc]
    exact ih (h.perform r)

theorem moved_ids (t : Timeline) (move : Option Zipper) :
    (t.moved move).1.ids = [] ∧ (t.moved move).2.taken = t.taken := by
  cases move <;> exact ⟨rfl, rfl⟩

/-- An id is handed out to every snapshot taken, and to nothing else. -/
theorem perform_ids (limit : Nat) (t : Timeline) (r : History.Request) :
    (t.perform limit r).1.ids = List.range' (t.taken + 1) r.pushed.length ∧
      (t.perform limit r).2.taken = t.taken + r.pushed.length := by
  cases r with
  | push w description => exact ⟨rfl, rfl⟩
  | undo => exact t.moved_ids t.undo
  | redo => exact t.moved_ids t.redo
  | goTo id => exact t.moved_ids (t.goTo id)
  | clear => exact ⟨rfl, rfl⟩

/-- The ids handed out go on from the number of snapshots taken before. -/
theorem replies_ids (limit : Nat) (t : Timeline) (rs : List History.Request) :
    (t.replies limit rs).1.flatMap History.Answer.ids =
      List.range' (t.taken + 1) (History.pushes rs).length := by
  induction rs generalizing t with
  | nil => rfl
  | cons r rs ih =>
    obtain ⟨hids, htaken⟩ := t.perform_ids limit r
    have hrest := ih (t.perform limit r).2
    rw [htaken, Nat.add_right_comm] at hrest
    rw [replies, List.flatMap_cons, hids, hrest, History.pushes_cons, List.length_append, List.range'_append_1]

/-! ## The history at any time -/

theorem current?_history (limit : Nat) (t : Timeline) :
    (t.history limit).current? = t.marked.map Zipper.current := by
  obtain ⟨_ | z, taken⟩ := t
  · rfl
  · exact z.getElem?_entries

theorem canUndo_history (limit : Nat) (t : Timeline) : (t.history limit).canUndo = t.undo.isSome := by
  obtain ⟨_ | ⟨_ | ⟨s, past⟩, current, future⟩, taken⟩ := t <;> rfl

theorem canRedo_history (limit : Nat) (t : Timeline) : (t.history limit).canRedo = t.redo.isSome := by
  obtain ⟨_ | ⟨past, current, future⟩, taken⟩ := t
  · rfl
  have hcan : (history limit ⟨some ⟨past, current, future⟩, taken⟩).canRedo =
      decide (past.length + 1 < (Zipper.entries ⟨past, current, future⟩).length) := rfl
  rw [hcan, Zipper.length_entries]
  cases future with
  | nil => exact decide_eq_false (by simp)
  | cons s future => exact decide_eq_true (by simp)

theorem redo_of_undo (h : t.undo = some z) : ∃ y, t.marked = some y ∧ redo ⟨some z, t.taken⟩ = some y := by
  obtain ⟨_ | ⟨_ | ⟨s, past⟩, current, future⟩, taken⟩ := t
  · cases h
  · cases h
  · obtain rfl := Option.some.inj h
    exact ⟨_, rfl, rfl⟩

theorem undo_of_redo (h : t.redo = some z) : ∃ y, t.marked = some y ∧ undo ⟨some z, t.taken⟩ = some y := by
  obtain ⟨_ | ⟨past, current, _ | ⟨s, future⟩⟩, taken⟩ := t
  · cases h
  · cases h
  · obtain rfl := Option.some.inj h
    exact ⟨_, rfl, rfl⟩

theorem moved_workflow {move : Option Zipper} (hmove : ∀ z, move = some z → z.entries = t.entries) {w : Workflow}
    (h : (t.moved move).1 = .workflow w) :
    ∃ z, (t.moved move).2 = ⟨some z, t.taken⟩ ∧ z.entries = t.entries ∧ z.current.workflow = w := by
  cases move with
  | none => cases h
  | some z => exact ⟨z, rfl, hmove z rfl, History.Answer.workflow.inj h⟩

/-- A workflow is answered where a snapshot is moved to. -/
theorem perform_workflow {r : History.Request} {w : Workflow} (h : (t.perform limit r).1 = .workflow w) :
    ∃ z, (t.perform limit r).2 = ⟨some z, t.taken⟩ ∧ z.entries = t.entries ∧ z.current.workflow = w := by
  cases r with
  | push v description => cases h
  | undo => exact moved_workflow (fun z => entries_of_undo) h
  | redo => exact moved_workflow (fun z => entries_of_redo) h
  | goTo id => exact moved_workflow (fun z hz => (entries_of_goTo hz).1) h
  | clear => cases h

theorem goTo_eq_none_iff (id : Nat) : t.goTo id = none ↔ ∀ s ∈ t.entries, s.id ≠ id := by
  obtain ⟨_ | y, taken⟩ := t
  · exact ⟨fun _ s hs => (nomatch hs), fun _ => rfl⟩
  · have hgoTo : goTo ⟨some y, taken⟩ id = Zipper.seek id [] y.entries := rfl
    rw [hgoTo, Zipper.seek_eq_none_iff]
    rfl

end Timeline

namespace History

/-- What can be relied on of a history with the snapshots of `ps` taken. -/
structure Orderly (limit : Nat) (ps : List (Workflow × String)) (h : History) : Prop where
  length_le : h.entries.length ≤ Nat.max limit 1
  current?_eq_none_iff : h.current? = none ↔ h.entries = []
  increasing : h.entries.Pairwise fun s u => s.id < u.id
  /-- The snapshot with an id is the one that was taken with it. -/
  pushed : ∀ s ∈ h.entries, ∃ n, s.id = n + 1 ∧ ps[n]? = some (s.workflow, s.description)
  undo_eq_none_iff : h.undo = none ↔ h.canUndo = false
  redo_eq_none_iff : h.redo = none ↔ h.canRedo = false
  goTo_eq_none_iff : ∀ id, h.goTo id = none ↔ ∀ s ∈ h.entries, s.id ≠ id
  /-- Where there is nothing to go to, nothing changes. -/
  eq_of_nothing : ∀ r v, h.perform r = (.nothing, v) → v = h
  goTo_id : ∀ id w v, h.goTo id = some (w, v) → ∃ s, v.current? = some s ∧ s.id = id
  /-- The workflow to return to is that of the snapshot arrived at, and all snapshots remain. -/
  moved : ∀ r w v, h.perform r = (.workflow w, v) →
    v.entries = h.entries ∧ ∃ s ∈ h.entries, v.current? = some s ∧ s.workflow = w
  redo_undo : ∀ w v, h.undo = some (w, v) → ∃ s, h.current? = some s ∧ v.redo = some (s.workflow, h)
  undo_redo : ∀ w v, h.redo = some (w, v) → ∃ s, h.current? = some s ∧ v.undo = some (s.workflow, h)

theorem eq_of_moved_nothing {h v : History} {move : Option (Workflow × History)}
    (hmove : h.moved move = (.nothing, v)) : v = h := by
  cases move with
  | none => exact (Prod.mk.inj hmove).2.symm
  | some result => cases (Prod.mk.inj hmove).1

theorem eq_of_perform_nothing {h v : History} {r : Request} (hperform : h.perform r = (.nothing, v)) : v = h := by
  cases r with
  | push w description => cases (Prod.mk.inj hperform).1
  | undo => exact eq_of_moved_nothing hperform
  | redo => exact eq_of_moved_nothing hperform
  | goTo id => exact eq_of_moved_nothing hperform
  | clear => cases (Prod.mk.inj hperform).1

end History

namespace Timeline

variable {limit : Nat} {t : Timeline} {ps : List (Workflow × String)}

theorem Holds.orderly (h : t.Holds limit ps) : (t.history limit).Orderly limit ps where
  length_le := h.length_le
  increasing := h.increasing
  pushed := h.pushed
  current?_eq_none_iff := by
    rw [current?_history, Option.map_eq_none_iff]
    obtain ⟨_ | z, taken⟩ := t
    · exact ⟨fun _ => rfl, fun _ => rfl⟩
    · refine ⟨fun hmarked => (nomatch hmarked), fun hentries => ?_⟩
      have hplace := z.getElem?_entries
      rw [show z.entries = [] from hentries] at hplace
      cases hplace
  undo_eq_none_iff := by
    rw [undo_history, canUndo_history, Option.map_eq_none_iff, Option.isSome_eq_false_iff, Option.isNone_iff_eq_none]
  redo_eq_none_iff := by
    rw [redo_history, canRedo_history, Option.map_eq_none_iff, Option.isSome_eq_false_iff, Option.isNone_iff_eq_none]
  goTo_eq_none_iff id := by
    rw [goTo_history, Option.map_eq_none_iff, goTo_eq_none_iff]
    rfl
  eq_of_nothing r v := History.eq_of_perform_nothing
  goTo_id id w v hgoTo := by
    rw [goTo_history, Option.map_eq_some_iff] at hgoTo
    obtain ⟨z, hz, heq⟩ := hgoTo
    obtain ⟨-, rfl⟩ := Prod.mk.inj heq
    exact ⟨z.current, current?_history limit _, (entries_of_goTo hz).2⟩
  moved r w v hperform := by
    rw [perform_history] at hperform
    obtain ⟨hanswer, rfl⟩ := Prod.mk.inj hperform
    obtain ⟨z, hnext, hentries, hworkflow⟩ := perform_workflow hanswer
    rw [hnext]
    have hcurrent : z.current ∈ t.entries := hentries ▸ List.mem_of_getElem? z.getElem?_entries
    exact ⟨hentries, z.current, hcurrent, current?_history limit _, hworkflow⟩
  redo_undo w v hundo := by
    rw [undo_history, Option.map_eq_some_iff] at hundo
    obtain ⟨z, hz, heq⟩ := hundo
    obtain ⟨-, rfl⟩ := Prod.mk.inj heq
    obtain ⟨y, hmarked, hback⟩ := redo_of_undo hz
    refine ⟨y.current, by rw [current?_history, hmarked, Option.map_some], ?_⟩
    rw [redo_history, hback, Option.map_some, ← hmarked]
  undo_redo w v hredo := by
    rw [redo_history, Option.map_eq_some_iff] at hredo
    obtain ⟨z, hz, heq⟩ := hredo
    obtain ⟨-, rfl⟩ := Prod.mk.inj heq
    obtain ⟨y, hmarked, hback⟩ := undo_of_redo hz
    refine ⟨y.current, by rw [current?_history, hmarked, Option.map_some], ?_⟩
    rw [undo_history, hback, Option.map_some, ← hmarked]

theorem holds_empty (limit : Nat) : empty.Holds limit [] :=
  ⟨rfl, Nat.zero_le _, List.Pairwise.nil, fun _ hs => (nomatch hs)⟩

end Timeline

/-- **A history is the ideal one.** Whatever it is asked for, in whatever order, it answers as the ideal history
does and goes on to show the same snapshots with the same one current; the ids it hands out are the numbers from
one on, none of them twice; and what can be relied on holds after every sequence of requests. -/
theorem History.replies_agree (limit : Nat) (rs : List History.Request) :
    ((History.empty limit).replies rs).1 = (Timeline.empty.replies limit rs).1 ∧
      ((History.empty limit).replies rs).2 = (Timeline.empty.replies limit rs).2.history limit ∧
      ((History.empty limit).replies rs).1.flatMap History.Answer.ids =
        List.range' 1 (History.pushes rs).length ∧
      ((History.empty limit).replies rs).2.Orderly limit (History.pushes rs) := by
  have hempty : History.empty limit = Timeline.empty.history limit := rfl
  rw [hempty, Timeline.replies_history]
  exact ⟨rfl, rfl, Timeline.empty.replies_ids limit rs, ((Timeline.holds_empty limit).replies rs).orderly⟩

end Dataflow
