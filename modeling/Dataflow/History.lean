import Dataflow.Graph.Basic
/-!
Undo and redo: snapshots of a workflow in the order in which they were taken, one of which is the current one.

A new snapshot replaces everything after the current one. There is a limit to the number of snapshots, beyond
which the oldest ones are dropped; the ids of snapshots go on counting whatever becomes of them.
-/

namespace Dataflow

structure Snapshot where
  id : Nat
  description : String
  workflow : Workflow
deriving DecidableEq

structure History where
  /-- Oldest first. -/
  entries : List Snapshot
  /-- The place of the current snapshot; there is one unless there are no snapshots. -/
  cursor : Option Nat
  /-- At most so many snapshots are kept. -/
  limit : Nat
  /-- The id given out last. -/
  lastId : Nat

namespace History

/-- The number of snapshots kept where nothing else is asked for. -/
def defaultLimit : Nat := 50

/-- Without snapshots. At least one can be kept whatever the limit asked for. -/
def empty (limit : Nat) : History := ⟨[], none, Nat.max limit 1, 0⟩

def current? (h : History) : Option Snapshot := h.cursor.bind fun i => h.entries[i]?

def canUndo (h : History) : Bool :=
  match h.cursor with
  | some (_ + 1) => true
  | _ => false

def canRedo (h : History) : Bool :=
  match h.cursor with
  | some i => decide (i + 1 < h.entries.length)
  | none => false

/-- The newest entries, as many as may be kept. -/
def newest (limit : Nat) (entries : List Snapshot) : List Snapshot := entries.drop (entries.length - limit)

/-- Takes a snapshot, which becomes the current one. -/
def push (h : History) (w : Workflow) (description : String) : History :=
  let before := match h.cursor with
    | some i => h.entries.take (i + 1)
    | none => []
  let entries := newest h.limit (before ++ [⟨h.lastId + 1, description, w⟩])
  ⟨entries, some (entries.length - 1), h.limit, h.lastId + 1⟩

/-- Makes the snapshot at a place the current one. -/
def moveTo (h : History) (place : Nat) : Option (Workflow × History) :=
  (h.entries[place]?).map fun s => (s.workflow, { h with cursor := some place })

/-- One snapshot back, with the workflow to return to. -/
def undo (h : History) : Option (Workflow × History) :=
  match h.cursor with
  | some (i + 1) => h.moveTo i
  | _ => none

/-- One snapshot on, with the workflow to return to. -/
def redo (h : History) : Option (Workflow × History) :=
  h.cursor.bind fun i => h.moveTo (i + 1)

/-- To the snapshot with an id, with the workflow to return to. -/
def goTo (h : History) (id : Nat) : Option (Workflow × History) :=
  (h.entries.findIdx? (·.id == id)).bind h.moveTo

/-- Drops all snapshots. -/
def clear (h : History) : History := { h with entries := [], cursor := none }

end History

end Dataflow
