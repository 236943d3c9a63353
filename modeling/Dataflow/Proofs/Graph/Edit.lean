import Dataflow.Graph.Edit
import Dataflow.Proofs.Graph.Sound
import Mathlib.Data.List.Perm.Subperm
/-!
What editing does to a workflow.

Every edit is said once as a relation between a workflow, what the edit answers and the workflow afterwards
(`Edit.Outcome`), refusals included; the operations are proved to follow it, and whatever else there is to know of
them comes from it. The main statement is that a workflow made by edits alone is sound at any time
(`edited_sound`). Five of the edits take something away or leave all connections in place, and for those soundness
goes on by `Sound.mono`. A new connection needs more: its ends are what the rules for connections check, and its id
is new because of one more number than there are connections, one is free.
-/

set_option autoImplicit false

namespace Dataflow

/-! ## Edits -/

/-- An edit of a workflow, as it is asked for. -/
inductive Edit where
  | addNode (n : Node)
  | removeNode (id : String)
  | updateConfig (id : String) (config : Config)
  | connect (origin target : String)
  | removeConnection (id : String)
  | clear

/-- What an edit answers. -/
inductive Edit.Answer where
  | done
  | node (n : Node)
  | connection (c : Connection)
  /-- There is no such node or connection to take out. -/
  | nothing
  | graphError (error : GraphError)
  | connectionError (error : ConnectionError)

/-- Whether an answer is an error or nothing. -/
def Edit.Answer.isRefusal : Edit.Answer → Bool
  | .done | .node _ | .connection _ => false
  | .nothing | .graphError _ | .connectionError _ => true

/-- Edits a workflow. Where the operation yields no workflow, the one that there is remains. -/
def Edit.perform (w : Workflow) : Edit → Edit.Answer × Workflow
  | .addNode n => match w.addNode n with
    | .ok v => (.done, v)
    | .error error => (.graphError error, w)
  | .removeNode id => match w.removeNode id with
    | some (n, v) => (.node n, v)
    | none => (.nothing, w)
  | .updateConfig id config => match w.updateConfig id config with
    | .ok v => (.done, v)
    | .error error => (.graphError error, w)
  | .connect origin target => match w.connect origin target with
    | .ok (c, v) => (.connection c, v)
    | .error error => (.connectionError error, w)
  | .removeConnection id => match w.removeConnection id with
    | some (c, v) => (.connection c, v)
    | none => (.nothing, w)
  | .clear => (.done, w.clear)

/-- A workflow after edits, whatever they answer. -/
def Workflow.edited (w : Workflow) (edits : List Edit) : Workflow := edits.foldl (fun w e => (e.perform w).2) w

/-! ## Lists -/

/-- What is taken out of a list is the first of its kind. -/
theorem eraseP_append_cons {α : Type*} {p : α → Bool} {front back : List α} {x : α} (hx : p x = true)
    (hfront : ∀ y ∈ front, ¬ p y = true) : (front ++ x :: back).eraseP p = front ++ back := by
  rw [List.eraseP_append_right _ hfront, List.eraseP_cons_of_pos hx]

/-! ## Numbers of connections -/

namespace Workflow

theorem connectionId_injective : Function.Injective connectionId := by
  intro m n h
  have htext := congrArg String.toList h
  rw [connectionId, connectionId, String.toList_append, String.toList_append] at htext
  exact natText_injective (String.toList_injective (List.append_cancel_left htext))

section
variable (connections : List Connection)

/-- A number that is passed over is in use, and the one arrived at is free unless the rounds have run out. -/
theorem freeNumber_spec (rounds number : Nat) :
    number ≤ freeNumber connections rounds number ∧
      (∀ k, number ≤ k → k < freeNumber connections rounds number →
        connectionId k ∈ connections.map (·.id)) ∧
      (connectionId (freeNumber connections rounds number) ∈ connections.map (·.id) →
        freeNumber connections rounds number = number + rounds) := by
  have hany (k : Nat) : connections.any (·.id == connectionId k) = true ↔
      connectionId k ∈ connections.map (·.id) := by
    simp [List.mem_map]
  induction rounds generalizing number with
  | zero =>
    rw [freeNumber]
    exact ⟨Nat.le_refl _, fun k hle hlt => by omega, fun _ => rfl⟩
  | succ rounds ih =>
    rw [freeNumber]
    by_cases hused : connections.any (·.id == connectionId number) = true
    · rw [if_pos hused]
      obtain ⟨hle, hpassed, hend⟩ := ih (number + 1)
      refine ⟨by omega, fun k hk hlt => ?_, fun hmem => ?_⟩
      · rcases Nat.eq_or_lt_of_le hk with rfl | hk
        · exact (hany number).1 hused
        · exact hpassed k hk hlt
      · have := hend hmem
        omega
    · rw [if_neg hused]
      refine ⟨Nat.le_refl _, fun k hle hlt => by omega, fun hmem => ?_⟩
      exact absurd ((hany number).2 hmem) hused

/-- The number arrived at is among those that the rounds reach. -/
theorem freeNumber_le (rounds number : Nat) : freeNumber connections rounds number ≤ number + rounds := by
  induction rounds generalizing number with
  | zero => simp [freeNumber]
  | succ rounds ih =>
    rw [freeNumber]
    split
    · have := ih (number + 1)
      omega
    · omega

/-- Of one more number than there are connections, one is free. -/
theorem connectionId_freeNumber_not_mem (number : Nat) :
    connectionId (freeNumber connections connections.length number) ∉ connections.map (·.id) := by
  intro hmem
  obtain ⟨-, hpassed, hend⟩ := freeNumber_spec connections connections.length number
  have hlast : freeNumber connections connections.length number = number + connections.length := hend hmem
  -- All of the numbers are in use, which are more different ids than there are connections.
  have hsubset : (List.range' number (connections.length + 1)).map connectionId ⊆ connections.map (·.id) := by
    intro id hid
    obtain ⟨k, hk, rfl⟩ := List.mem_map.1 hid
    rw [List.mem_range'_1] at hk
    by_cases hlt : k < freeNumber connections connections.length number
    · exact hpassed k hk.1 hlt
    · have heq : k = freeNumber connections connections.length number := by omega
      rw [heq]
      exact hmem
  have hnodup : ((List.range' number (connections.length + 1)).map connectionId).Nodup :=
    List.Nodup.map connectionId_injective List.nodup_range'
  have hle := hnodup.length_le_of_subset hsubset
  rw [List.length_map, List.length_map, List.length_range'] at hle
  omega

end

/-- The number of the next connection is the first free one after the number handed out last. -/
theorem nextNumber_spec (w : Workflow) :
    w.lastNumber < w.nextNumber ∧ connectionId w.nextNumber ∉ w.connections.map (·.id) ∧
      ∀ k, w.lastNumber < k → k < w.nextNumber → connectionId k ∈ w.connections.map (·.id) := by
  obtain ⟨hle, hpassed, -⟩ := freeNumber_spec w.connections w.connections.length (w.lastNumber + 1)
  exact ⟨hle, connectionId_freeNumber_not_mem _ _, hpassed⟩

/-! ## Nodes -/

variable {w : Workflow}

theorem node?_eq_none_iff {id : String} : w.node? id = none ↔ id ∉ w.ids := by
  constructor
  · intro h hid
    obtain ⟨n, hn⟩ := node?_isSome hid
    rw [h] at hn
    cases hn
  · intro h
    cases hn : w.node? id with
    | none => rfl
    | some n =>
      obtain ⟨hmem, rfl⟩ := of_node?_eq_some hn
      exact absurd (id_mem_ids hmem) h

/-- A look-up finds the first node with an id. -/
theorem split_of_node? {id : String} {n : Node} (h : w.node? id = some n) :
    n.id = id ∧ ∃ front back, w.nodes = front ++ n :: back ∧ ∀ m ∈ front, m.id ≠ id := by
  obtain ⟨hid, front, back, hsplit, hfront⟩ := List.find?_eq_some_iff_append.1 h
  exact ⟨by simpa using hid, front, back, hsplit, fun m hm => by simpa using hfront m hm⟩

/-- The first node with an id is the one whose settings change. -/
theorem setConfig_split {id : String} {config : Config} {n : Node} {front back : List Node} (hn : n.id = id)
    (hfront : ∀ m ∈ front, m.id ≠ id) :
    setConfig id config (front ++ n :: back) = front ++ { n with config := config } :: back := by
  induction front with
  | nil => rw [List.nil_append, setConfig, if_pos hn, List.nil_append]
  | cons m front ih =>
    obtain ⟨hm, hfront⟩ := List.forall_mem_cons.1 hfront
    rw [List.cons_append, setConfig, if_neg hm, ih hfront, List.cons_append]

/-! ## Connections -/

section
variable {origin target : String}

theorem connect_of_error {error : ConnectionError} (h : w.checkConnection origin target = .error error) :
    w.connect origin target = .error error := by
  rw [connect, h]
  rfl

/-- A connection that is added has the next number and comes last. -/
theorem connect_of_ok {u : Unit} (h : w.checkConnection origin target = .ok u) :
    w.connect origin target = .ok (⟨connectionId w.nextNumber, origin, target⟩, { w with
      connections := w.connections ++ [⟨connectionId w.nextNumber, origin, target⟩]
      lastNumber := w.nextNumber }) := by
  rw [connect, h]
  rfl

end

/-- No connection has an id that a look-up does not find. -/
theorem connection?_eq_none_iff {id : String} : w.connection? id = none ↔ id ∉ w.connections.map (·.id) := by
  rw [connection?, List.find?_eq_none, List.mem_map]
  constructor
  · rintro h ⟨c, hc, hid⟩
    exact h c hc (by simpa using hid)
  · intro h c hc hid
    exact h ⟨c, hc, by simpa using hid⟩

section
variable {front back : List Connection} {c : Connection}

/-- A look-up finds the first connection with an id. -/
theorem connection?_of_split (hsplit : w.connections = front ++ c :: back) (hfront : ∀ d ∈ front, d.id ≠ c.id) :
    w.connection? c.id = some c :=
  List.find?_eq_some_iff_append.2 ⟨by simp, front, back, hsplit, by simpa using hfront⟩

/-- Removed by its id, it leaves the others in their order. -/
theorem removeConnection_of_split (hsplit : w.connections = front ++ c :: back)
    (hfront : ∀ d ∈ front, d.id ≠ c.id) :
    w.removeConnection c.id = some (c, { w with connections := front ++ back }) := by
  rw [removeConnection, connection?_of_split hsplit hfront, Option.map_some, hsplit,
    eraseP_append_cons (by simp) (by simpa using hfront)]

end

end Workflow

/-! ## Outcomes -/

/-- What an edit answers, and the workflow that it leaves. -/
inductive Edit.Outcome (w : Workflow) : Edit → Edit.Answer → Workflow → Prop where
  | added {n : Node} (hnew : n.id ∉ w.ids) :
    Outcome w (.addNode n) .done { w with nodes := w.nodes ++ [n] }
  | alreadyThere {n : Node} (hold : n.id ∈ w.ids) :
    Outcome w (.addNode n) (.graphError (.duplicateNode n.id)) w
  | nodeRemoved {id : String} {front back : List Node} {n : Node} (hsplit : w.nodes = front ++ n :: back)
      (hid : n.id = id) (hfront : ∀ m ∈ front, m.id ≠ id) :
    Outcome w (.removeNode id) (.node n)
      { w with
        nodes := front ++ back
        connections := w.connections.filter fun c => c.origin != id && c.target != id }
  | noNode {id : String} (hid : id ∉ w.ids) : Outcome w (.removeNode id) .nothing w
  | updated {id : String} {config : Config} {front back : List Node} {n : Node}
      (hsplit : w.nodes = front ++ n :: back) (hid : n.id = id) (hfront : ∀ m ∈ front, m.id ≠ id) :
    Outcome w (.updateConfig id config) .done { w with nodes := front ++ { n with config := config } :: back }
  | notUpdated {id : String} {config : Config} (hid : id ∉ w.ids) :
    Outcome w (.updateConfig id config) (.graphError (.nodeNotFound id)) w
  /-- The number is the first free one after the last. -/
  | connected {origin target : String} {number : Nat} (hjoin : w.Joinable origin target)
      (hends : (origin, target) ∉ w.connections.map fun c => (c.origin, c.target))
      (hlater : w.lastNumber < number)
      (hfree : Workflow.connectionId number ∉ w.connections.map (·.id))
      (hfirst : ∀ k, w.lastNumber < k → k < number → Workflow.connectionId k ∈ w.connections.map (·.id)) :
    Outcome w (.connect origin target) (.connection ⟨Workflow.connectionId number, origin, target⟩)
      { w with
        connections := w.connections ++ [⟨Workflow.connectionId number, origin, target⟩]
        lastNumber := number }
  | notConnected {origin target : String} {error : ConnectionError}
      (herror : w.checkConnection origin target = .error error) :
    Outcome w (.connect origin target) (.connectionError error) w
  | connectionRemoved {id : String} {front back : List Connection} {c : Connection}
      (hsplit : w.connections = front ++ c :: back) (hid : c.id = id) (hfront : ∀ d ∈ front, d.id ≠ id) :
    Outcome w (.removeConnection id) (.connection c) { w with connections := front ++ back }
  | noConnection {id : String} (hid : id ∉ w.connections.map (·.id)) :
    Outcome w (.removeConnection id) .nothing w
  | cleared : Outcome w .clear .done { w with nodes := [], connections := [] }

namespace Edit

variable {w : Workflow}

theorem outcome_addNode (n : Node) : Outcome w (.addNode n) (perform w (.addNode n)).1 (perform w (.addNode n)).2 := by
  cases hn : w.node? n.id with
  | none =>
    have hok : w.addNode n = .ok { w with nodes := w.nodes ++ [n] } := by simp [Workflow.addNode, hn]
    rw [perform, hok]
    exact .added (Workflow.node?_eq_none_iff.1 hn)
  | some m =>
    have herror : w.addNode n = .error (.duplicateNode n.id) := by simp [Workflow.addNode, hn]
    obtain ⟨hm, hid⟩ := Workflow.of_node?_eq_some hn
    rw [perform, herror]
    exact .alreadyThere (hid ▸ Workflow.id_mem_ids hm)

theorem outcome_removeNode (id : String) :
    Outcome w (.removeNode id) (perform w (.removeNode id)).1 (perform w (.removeNode id)).2 := by
  cases hn : w.node? id with
  | none =>
    have hnone : w.removeNode id = none := by rw [Workflow.removeNode, hn, Option.map_none]
    rw [perform, hnone]
    exact .noNode (Workflow.node?_eq_none_iff.1 hn)
  | some n =>
    obtain ⟨hid, front, back, hsplit, hfront⟩ := Workflow.split_of_node? hn
    have hsome : w.removeNode id = some (n, { w with
        nodes := front ++ back
        connections := w.connections.filter fun c => c.origin != id && c.target != id }) := by
      rw [Workflow.removeNode, hn, Option.map_some, hsplit,
        eraseP_append_cons (by simpa using hid) (by simpa using hfront)]
    rw [perform, hsome]
    exact .nodeRemoved hsplit hid hfront

theorem outcome_updateConfig (id : String) (config : Config) : Outcome w (.updateConfig id config)
    (perform w (.updateConfig id config)).1 (perform w (.updateConfig id config)).2 := by
  cases hn : w.node? id with
  | none =>
    have herror : w.updateConfig id config = .error (.nodeNotFound id) := by simp [Workflow.updateConfig, hn]
    rw [perform, herror]
    exact .notUpdated (Workflow.node?_eq_none_iff.1 hn)
  | some n =>
    obtain ⟨hid, front, back, hsplit, hfront⟩ := Workflow.split_of_node? hn
    have hok : w.updateConfig id config = .ok { w with nodes := front ++ { n with config := config } :: back } := by
      rw [Workflow.updateConfig, hn, Option.isSome_some, if_pos rfl, hsplit, Workflow.setConfig_split hid hfront]
    rw [perform, hok]
    exact .updated hsplit hid hfront

theorem outcome_connect (origin target : String) : Outcome w (.connect origin target)
    (perform w (.connect origin target)).1 (perform w (.connect origin target)).2 := by
  cases hcheck : w.checkConnection origin target with
  | error error =>
    rw [perform, Workflow.connect_of_error hcheck]
    exact .notConnected hcheck
  | ok u =>
    obtain ⟨hjoin, hjoined⟩ := Workflow.checkConnection_eq_ok_iff.1 hcheck
    rw [← Bool.not_eq_true, Workflow.hasConnection_eq_true_iff] at hjoined
    obtain ⟨hlater, hfree, hfirst⟩ := w.nextNumber_spec
    rw [perform, Workflow.connect_of_ok hcheck]
    exact .connected hjoin hjoined hlater hfree hfirst

theorem outcome_removeConnection (id : String) : Outcome w (.removeConnection id)
    (perform w (.removeConnection id)).1 (perform w (.removeConnection id)).2 := by
  cases hc : w.connection? id with
  | none =>
    have hnone : w.removeConnection id = none := by rw [Workflow.removeConnection, hc, Option.map_none]
    rw [perform, hnone]
    exact .noConnection (Workflow.connection?_eq_none_iff.1 hc)
  | some c =>
    obtain ⟨hid, front, back, hsplit, hfront⟩ := List.find?_eq_some_iff_append.1 hc
    obtain rfl : c.id = id := by simpa using hid
    have hfront : ∀ d ∈ front, d.id ≠ c.id := fun d hd => by simpa using hfront d hd
    rw [perform, Workflow.removeConnection_of_split hsplit hfront]
    exact .connectionRemoved hsplit rfl hfront

/-- Every edit has one of the outcomes. -/
theorem perform_outcome (w : Workflow) (e : Edit) : e.Outcome w (e.perform w).1 (e.perform w).2 := by
  cases e with
  | addNode n => exact outcome_addNode n
  | removeNode id => exact outcome_removeNode id
  | updateConfig id config => exact outcome_updateConfig id config
  | connect origin target => exact outcome_connect origin target
  | removeConnection id => exact outcome_removeConnection id
  | clear => exact .cleared

/-! ## What every outcome keeps -/

namespace Outcome

variable {v : Workflow} {e : Edit} {a : Answer}

/-- A refused edit changes nothing. -/
theorem eq_of_isRefusal (h : e.Outcome w a v) (ha : a.isRefusal = true) : v = w := by
  cases h with
  | alreadyThere | noNode | notUpdated | notConnected | noConnection => rfl
  | added | nodeRemoved | updated | connected | connectionRemoved | cleared => cases ha

theorem rules_eq (h : e.Outcome w a v) : v.rules = w.rules := by
  cases h <;> rfl

/-- Where a node goes, the others keep their roles. -/
theorem role?_remove {front back : List Node} {n : Node} (hsplit : w.nodes = front ++ n :: back)
    (hv : v.nodes = front ++ back) {id : String} (hid : id ≠ n.id) : v.role? id = w.role? id := by
  have hn : (n.id == id) = false := by simpa using hid.symm
  rw [Workflow.role?, Workflow.role?, Workflow.node?, Workflow.node?, hv, hsplit, List.find?_append,
    List.find?_append, List.find?_cons_of_neg (by simp [hn])]

/-- A new node does not change the roles of those there are. -/
theorem role?_append {n : Node} (hv : v.nodes = w.nodes ++ [n]) {id : String} (hid : id ∈ w.ids) :
    v.role? id = w.role? id := by
  obtain ⟨m, hm⟩ := Workflow.node?_isSome hid
  have hfind : w.nodes.find? (·.id == id) = some m := hm
  rw [Workflow.role?, Workflow.role?, Workflow.node?, hv, List.find?_append, hm, hfind, Option.some_or]

/-- **Every outcome is sound** where the workflow before it was. -/
theorem sound (hw : w.Sound) (h : e.Outcome w a v) : v.Sound := by
  cases h with
  | alreadyThere | noNode | notUpdated | notConnected | noConnection => exact hw
  | @added n hnew =>
    refine hw.mono ?_ (List.Sublist.refl _) id fun c hc => ?_
    · rw [Workflow.DistinctIds, Workflow.ids, List.map_append]
      exact List.nodup_append_comm.1 (List.nodup_cons.2 ⟨hnew, hw.distinctIds⟩)
    · obtain ⟨horigin, htarget, -⟩ := hw.feeds hc
      exact ⟨role?_append rfl horigin, role?_append rfl htarget⟩
  | @nodeRemoved id front back n hsplit hid hfront =>
    refine hw.mono ?_ List.filter_sublist (fun h => h) fun c hc => ?_
    · have hsublist : (front ++ back).Sublist w.nodes := by
        rw [hsplit]
        exact (List.sublist_cons_self n back).append_left front
      exact List.Nodup.sublist (hsublist.map _) hw.distinctIds
    · -- What remains touches the removed node at neither end.
      obtain ⟨-, hends⟩ := List.mem_filter.1 hc
      have hends : c.origin ≠ id ∧ c.target ≠ id := by simpa using hends
      rw [← hid] at hends
      exact ⟨role?_remove hsplit rfl hends.1, role?_remove hsplit rfl hends.2⟩
  | @updated id config front back n hsplit hid hfront =>
    refine hw.mono ?_ (List.Sublist.refl _) (fun h => h) fun c hc => ?_
    · -- New settings leave the ids, and below the roles, as they are.
      have hids := hw.distinctIds
      rw [Workflow.DistinctIds, Workflow.ids, hsplit] at hids
      simpa [Workflow.DistinctIds, Workflow.ids] using hids
    · have hroles (id : String) :
          Workflow.role? { w with nodes := front ++ { n with config := config } :: back } id = w.role? id :=
        Workflow.role?_congr (by simp [hsplit]) id
      exact ⟨hroles _, hroles _⟩
  | @connected origin target number hjoin hends hlater hfree hfirst =>
    refine ⟨hw.distinctIds, ?_, ?_, ?_⟩
    · rw [List.map_append]
      exact List.nodup_append_comm.1 (List.nodup_cons.2 ⟨hfree, hw.connectionIds_nodup⟩)
    · rw [List.map_append]
      exact List.nodup_append_comm.1 (List.nodup_cons.2 ⟨hends, hw.ends_nodup⟩)
    · -- The rules for a connection do not look at the other connections.
      intro c hc
      rcases List.mem_append.1 hc with hc | hc
      · exact hw.joinable c hc
      · obtain rfl := List.mem_singleton.1 hc
        exact hjoin
  | @connectionRemoved id front back c hsplit hid hfront =>
    refine hw.mono hw.distinctIds ?_ (fun h => h) fun d hd => ⟨rfl, rfl⟩
    rw [hsplit]
    exact (List.sublist_cons_self c back).append_left front
  | cleared => exact hw.mono List.nodup_nil (List.nil_sublist _) (fun h => h) fun c hc => by cases hc

end Outcome

end Edit

/-! ## Sequences of edits -/

namespace Workflow

variable {w : Workflow}

/-- What every edit keeps, every sequence of edits keeps. -/
theorem edited_induction {P : Workflow → Prop} (hw : P w)
    (hstep : ∀ {w v e a}, P w → Edit.Outcome w e a v → P v) (edits : List Edit) : P (w.edited edits) := by
  induction edits generalizing w with
  | nil => exact hw
  | cons e edits ih => exact ih (hstep hw (e.perform_outcome w))

/-- A workflow without nodes and connections is sound. -/
theorem sound_of_nil (hnodes : w.nodes = []) (hconnections : w.connections = []) : w.Sound where
  distinctIds := by rw [DistinctIds, ids, hnodes]; exact List.nodup_nil
  connectionIds_nodup := by rw [hconnections]; exact List.nodup_nil
  ends_nodup := by rw [hconnections]; exact List.nodup_nil
  joinable := by rw [hconnections]; exact fun c hc => by cases hc

/-- **Edits keep a workflow sound.** Whatever edits are made from a workflow without nodes and connections, and
whether they are accepted or refused, the workflow passes the integrity check under the rules it began with. Any
further edit has one of the outcomes above; a refused one changes nothing, and to take out a node takes out this one
and the connections that touch it, with all others left in their order. -/
theorem edited_sound (name : String) (rules : Rules) (edits : List Edit) :
    let w := Workflow.edited { name := name, rules := rules } edits
    w.checkIntegrity = .ok () ∧ w.Sound ∧ w.rules = rules ∧
      (∀ e : Edit, e.Outcome w (e.perform w).1 (e.perform w).2 ∧
        ((e.perform w).1.isRefusal = true → (e.perform w).2 = w)) ∧
      ∀ id, id ∈ w.ids → ∃ front n back, w.nodes = front ++ n :: back ∧ n.id = id ∧
        Edit.perform w (.removeNode id) = (.node n, { w with
          nodes := front ++ back
          connections := w.connections.filter fun c => c.origin != id && c.target != id }) := by
  intro w
  have hsound : w.Sound := edited_induction (sound_of_nil rfl rfl) (fun hw h => h.sound hw) edits
  have hrules : w.rules = rules :=
    edited_induction (P := fun w => w.rules = rules) rfl (fun hw h => h.rules_eq.trans hw) edits
  refine ⟨checkIntegrity_eq_ok_iff.2 hsound, hsound, hrules, fun e => ?_, fun id hid => ?_⟩
  · exact ⟨e.perform_outcome w, (e.perform_outcome w).eq_of_isRefusal⟩
  · have houtcome := Edit.outcome_removeNode (w := w) id
    generalize Edit.perform w (.removeNode id) = result at houtcome ⊢
    obtain ⟨answer, v⟩ := result
    have houtcome : Edit.Outcome w (.removeNode id) answer v := houtcome
    cases houtcome with
    | nodeRemoved hsplit hn hfront => exact ⟨_, _, _, hsplit, hn, rfl⟩
    | noNode hnone => exact absurd hid hnone

end Workflow

end Dataflow
