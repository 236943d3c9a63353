import Dataflow.Proofs.Document.RoundTrip
import Dataflow.Proofs.Graph.Edit
/-!
The numbers of connections.

An id of a connection is a number that is handed out once and counted on from, whatever becomes of the connection.
Whether such an id can come back is a question about whole sequences of edits, and `Workflow.made` lists what they
make. The count looks at the ids in use and at nothing else, so all depends on these: while none of them is numbered
beyond the count (`Workflow.Counted`), the next number is free and the count goes on by one (`made_spec`). Edits keep
it that way, so a workflow made by edits alone numbers its connections 1, 2, 3 and so on (`made_in_order`).

A workflow that came in as a whole brings ids of its own and begins to count at the number of its connections. One
of its ids may then be numbered beyond the count. Taken out, it is free when the count arrives there, and comes back.
That this is the only way for an id to come back is the other main statement (`idsHad_nodup_iff`).
-/

set_option autoImplicit false

namespace Dataflow

/-! ## What edits make -/

/-- The connection that an edit makes, read off its answer. -/
def Edit.makes : Edit → Edit.Answer → List Connection
  | .connect _ _, .connection c => [c]
  | _, _ => []

namespace Workflow

/-- The connections that edits make, oldest first. Those that have gone since are among them. -/
def made (w : Workflow) : List Edit → List Connection
  | [] => []
  | e :: edits => e.makes (e.perform w).1 ++ made (e.perform w).2 edits

/-- The ids that connections of a workflow have had: the ones it came with and those of connections made since. -/
def idsHad (w : Workflow) (edits : List Edit) : List String :=
  w.connections.map (·.id) ++ (w.made edits).map (·.id)

theorem made_append (w : Workflow) (edits more : List Edit) :
    w.made (edits ++ more) = w.made edits ++ (w.edited edits).made more := by
  induction edits generalizing w with
  | nil => rfl
  | cons e edits ih =>
    rw [List.cons_append, made, made, ih, List.append_assoc]
    rfl

/-! ## Counting -/

/-- No id in use has a number beyond the one handed out last. -/
def Counted (w : Workflow) : Prop :=
  ∀ c ∈ w.connections, ∀ number, c.id = connectionId number → number ≤ w.lastNumber

end Workflow

namespace Edit.Outcome

variable {w v : Workflow} {e : Edit} {a : Answer}

/-- What was counted stays counted where connections go and the count does not. -/
theorem counted_of_subset (hw : w.Counted) (hconnections : v.connections ⊆ w.connections)
    (hlast : v.lastNumber = w.lastNumber) : v.Counted := by
  intro c hc number hid
  rw [hlast]
  exact hw c (hconnections hc) number hid

/-- **An edit counts what it makes.** It makes one connection, which has the next number, or none. -/
theorem numbers (hw : w.Counted) (h : e.Outcome w a v) :
    v.Counted ∧ v.lastNumber = w.lastNumber + (e.makes a).length ∧
      (e.makes a).map (·.id) =
        (List.range' (w.lastNumber + 1) (e.makes a).length).map Workflow.connectionId := by
  cases h with
  | alreadyThere | noNode | notUpdated | notConnected | noConnection | added | updated => exact ⟨hw, rfl, rfl⟩
  | nodeRemoved =>
    refine ⟨counted_of_subset hw ?_ rfl, rfl, rfl⟩
    exact List.filter_sublist.subset
  | @connectionRemoved id front back c hsplit =>
    refine ⟨counted_of_subset hw ?_ rfl, rfl, rfl⟩
    rw [hsplit]
    exact ((List.sublist_cons_self c back).append_left front).subset
  | cleared => exact ⟨counted_of_subset hw (List.nil_subset _) rfl, rfl, rfl⟩
  | @connected origin target number hjoin hends hlater hfree hfirst =>
    -- Were the next number passed over, it would be in use, and what is in use has been counted.
    have hnext : number = w.lastNumber + 1 := by
      by_contra hne
      have hused := hfirst (w.lastNumber + 1) (by omega) (by omega)
      obtain ⟨c, hc, hid⟩ := List.mem_map.1 hused
      have := hw c hc _ hid
      omega
    subst hnext
    refine ⟨?_, rfl, rfl⟩
    intro c hc k hid
    show k ≤ w.lastNumber + 1
    rcases List.mem_append.1 hc with hc | hc
    · have := hw c hc k hid
      omega
    · rw [List.mem_singleton.1 hc] at hid
      have hk : w.lastNumber + 1 = k := Workflow.connectionId_injective hid
      omega

end Edit.Outcome

namespace Workflow

variable {w : Workflow}

/-- **Edits count what they make.** The numbers of the connections made follow on the count, with none left out and
none twice. -/
theorem made_spec (hw : w.Counted) (edits : List Edit) :
    (w.edited edits).lastNumber = w.lastNumber + (w.made edits).length ∧
      (w.made edits).map (·.id) =
        (List.range' (w.lastNumber + 1) (w.made edits).length).map connectionId := by
  induction edits generalizing w with
  | nil => exact ⟨rfl, rfl⟩
  | cons e edits ih =>
    obtain ⟨hv, hlast, hids⟩ := (e.perform_outcome w).numbers hw
    obtain ⟨hlast', hids'⟩ := ih hv
    have hedited : w.edited (e :: edits) = (e.perform w).2.edited edits := rfl
    rw [made, List.length_append, hedited]
    refine ⟨by omega, ?_⟩
    have hstart : (e.perform w).2.lastNumber + 1 = w.lastNumber + 1 + (e.makes (e.perform w).1).length := by omega
    calc (e.makes (e.perform w).1 ++ (e.perform w).2.made edits).map (·.id)
      _ = (List.range' (w.lastNumber + 1) (e.makes (e.perform w).1).length ++
            List.range' ((e.perform w).2.lastNumber + 1) ((e.perform w).2.made edits).length).map connectionId := by
        rw [List.map_append, List.map_append, hids, hids']
      _ = _ := by rw [hstart, List.range'_append_1]

/-- The ids of the connections made differ from each other, and from those that the workflow came with. -/
theorem Counted.idsHad_nodup (hw : w.Counted) (hnodup : (w.connections.map (·.id)).Nodup) (edits : List Edit) :
    (w.idsHad edits).Nodup := by
  unfold idsHad
  rw [(made_spec hw edits).2]
  refine List.nodup_append.2 ⟨hnodup, List.Nodup.map connectionId_injective List.nodup_range', ?_⟩
  intro id hid id' hid' heq
  obtain ⟨c, hc, rfl⟩ := List.mem_map.1 hid
  obtain ⟨number, hnumber, rfl⟩ := List.mem_map.1 hid'
  have hle := hw c hc number heq
  rw [List.mem_range'_1] at hnumber
  omega

/-! ### Workflows made by edits alone -/

/-- **Connections are numbered in the order in which they are made.** Of a workflow that began without nodes and
connections, the connection made first has the number 1, and each one after it the next number, whatever is taken out
between. So no id is given twice. The count is at the number of connections made. -/
theorem made_in_order (name : String) (rules : Rules) (edits : List Edit) :
    let w : Workflow := { name := name, rules := rules }
    (∀ (i : Nat) (c : Connection), (w.made edits)[i]? = some c → c.id = "conn-" ++ natText (i + 1)) ∧
      ((w.made edits).map (·.id)).Nodup ∧ (w.edited edits).lastNumber = (w.made edits).length := by
  intro w
  have hw : w.Counted := fun c hc => by cases hc
  obtain ⟨hlast, hids⟩ := made_spec hw edits
  have hzero : w.lastNumber = 0 := rfl
  refine ⟨?_, ?_, by omega⟩
  · intro i c hc
    have hid : ((w.made edits).map (·.id))[i]? = some c.id := by rw [List.getElem?_map, hc, Option.map_some]
    have hi : i < (w.made edits).length := (List.getElem?_eq_some_iff.1 hc).1
    rw [hids, List.getElem?_map, List.getElem?_range' hi, Option.map_some, hzero] at hid
    rw [← Option.some.inj hid, connectionId]
    congr 2
    omega
  · rw [hids]
    exact List.Nodup.map connectionId_injective List.nodup_range'

/-- A connection that was made, removed and made again has a number for each time. -/
example : (Workflow.made { name := "" }
    [.addNode ⟨"a", .source, "input", .empty⟩, .addNode ⟨"b", .sink, "output", .empty⟩, .connect "a" "b",
      .connect "a" "b", .removeConnection "conn-1", .connect "a" "b", .clear]).map (·.id) = ["conn-1", "conn-2"] := by
  cbv

/-! ### Workflows that came in as a whole -/

/-- A workflow put together from parts, or read from a document, that passes the integrity check. A description and
rules may have been set before the check. -/
inductive Restored : Workflow → Prop where
  | parts {name description : String} {nodes : List Node} {connections : List Connection} {rules : Rules}
      (hchecked : { ofParts name nodes connections with description := description, rules := rules }.checkIntegrity
        = .ok ()) :
    Restored { ofParts name nodes connections with description := description, rules := rules }
  | document {d : Document} {w : Workflow} (hread : d.toWorkflow = .ok w) : Restored w

/-- A restored workflow is sound, and begins to count at the number of its connections. -/
theorem Restored.spec (hw : w.Restored) : w.Sound ∧ w.lastNumber = w.connections.length := by
  cases hw with
  | parts hchecked => exact ⟨checkIntegrity_eq_ok_iff.1 hchecked, rfl⟩
  | document hread =>
    obtain ⟨rfl, hchecked⟩ := Document.toWorkflow_eq_ok_iff.1 hread
    exact ⟨checkIntegrity_eq_ok_iff.1 hchecked, rfl⟩

end Workflow

/-- Whether an edit adds or removes one node or one connection. -/
def Edit.addsOrRemoves : Edit → Bool
  | .addNode _ | .removeNode _ | .connect _ _ | .removeConnection _ => true
  | .updateConfig _ _ | .clear => false

namespace Workflow

variable {w : Workflow}

/-- Edits that take out connections, one by one. -/
def removals (connections : List Connection) : List Edit := connections.map fun c => .removeConnection c.id

/-- All connections can be taken out. That makes none, and the count stays where it is. -/
theorem edited_removals (w : Workflow) : w.edited (removals w.connections) = { w with connections := [] } ∧
    w.made (removals w.connections) = [] := by
  generalize hconnections : w.connections = connections
  induction connections generalizing w with
  | nil =>
    refine ⟨?_, rfl⟩
    show w = { w with connections := [] }
    rw [← hconnections]
  | cons c rest ih =>
    have hstep : Edit.perform w (.removeConnection c.id) = (.connection c, { w with connections := rest }) := by
      simp [Edit.perform, removeConnection, connection?, hconnections]
    obtain ⟨hedited, hmade⟩ := ih { w with connections := rest } rfl
    constructor
    · show (Edit.perform w (.removeConnection c.id)).2.edited (removals rest) = _
      rw [hstep]
      exact hedited
    · show Edit.makes (.removeConnection c.id) (Edit.perform w (.removeConnection c.id)).1 ++
        (Edit.perform w (.removeConnection c.id)).2.made (removals rest) = []
      rw [hstep]
      exact hmade

/-- Edits that join two nodes and take the connection out again, as often as asked, from a number on. -/
def rejoin (origin target : String) : Nat → Nat → List Edit
  | _, 0 => []
  | number, rounds + 1 =>
    .connect origin target :: .removeConnection (connectionId (number + 1)) :: rejoin origin target (number + 1) rounds

/-- In a workflow without connections, nodes that may be joined can be joined any number of times. -/
theorem length_made_rejoin {origin target : String} (hconnections : w.connections = [])
    (hjoin : w.Joinable origin target) (rounds : Nat) :
    (w.made (rejoin origin target w.lastNumber rounds)).length = rounds := by
  induction rounds generalizing w with
  | zero => rfl
  | succ rounds ih =>
    let c : Connection := ⟨connectionId (w.lastNumber + 1), origin, target⟩
    have hcheck : w.checkConnection origin target = .ok () := by
      refine checkConnection_eq_ok_iff.2 ⟨hjoin, ?_⟩
      rw [hasConnection, hconnections, List.any_nil]
    have hnumber : w.nextNumber = w.lastNumber + 1 := by
      rw [nextNumber, hconnections]
      rfl
    have hconnect : Edit.perform w (.connect origin target) =
        (.connection c, { w with connections := [c], lastNumber := w.lastNumber + 1 }) := by
      simp [Edit.perform, connect, hcheck, hnumber, hconnections, bind, Except.bind, c]
    have hremove : Edit.perform { w with connections := [c], lastNumber := w.lastNumber + 1 }
        (.removeConnection (connectionId (w.lastNumber + 1))) =
          (.connection c, { w with connections := [], lastNumber := w.lastNumber + 1 }) := by
      simp [Edit.perform, removeConnection, connection?, c]
    -- The rules look at the nodes, so the ends may be joined again.
    have hrest := ih (w := { w with connections := [], lastNumber := w.lastNumber + 1 }) rfl hjoin
    rw [rejoin, made, hconnect, made, hremove]
    show (c :: made { w with connections := [], lastNumber := w.lastNumber + 1 } _).length = rounds + 1
    rw [List.length_cons, hrest]

theorem addsOrRemoves_of_mem_rejoin {origin target : String} {number rounds : Nat} {e : Edit}
    (he : e ∈ rejoin origin target number rounds) : e.addsOrRemoves = true := by
  induction rounds generalizing number with
  | zero => cases he
  | succ rounds ih =>
    rw [rejoin, List.mem_cons, List.mem_cons] at he
    rcases he with rfl | rfl | he
    · rfl
    · rfl
    · exact ih he

/-- An id numbered beyond the count comes back: with all connections taken out, the ends of its own connection are
joined until the count arrives there. -/
theorem exists_edits_making {c : Connection} {number : Nat} (hw : w.Sound) (hc : c ∈ w.connections)
    (hid : c.id = connectionId number) (hbeyond : w.lastNumber < number) :
    ∃ edits : List Edit, (∀ e ∈ edits, e.addsOrRemoves = true) ∧ c.id ∈ (w.made edits).map (·.id) := by
  obtain ⟨hedited, hmade⟩ := edited_removals w
  have hjoin : Joinable { w with connections := [] } c.origin c.target := hw.joinable c hc
  let rounds := number - w.lastNumber
  let again := rejoin c.origin c.target w.lastNumber rounds
  refine ⟨removals w.connections ++ again, ?_, ?_⟩
  · intro e he
    rcases List.mem_append.1 he with he | he
    · obtain ⟨d, -, rfl⟩ := List.mem_map.1 he
      rfl
    · exact addsOrRemoves_of_mem_rejoin he
  · have hlength := length_made_rejoin (w := { w with connections := [] }) rfl hjoin rounds
    have hcounted : Counted { w with connections := [] } := fun d hd => by cases hd
    rw [made_append, hmade, hedited, List.nil_append, (made_spec hcounted again).2, hlength, hid]
    refine List.mem_map_of_mem (List.mem_range'_1.2 ?_)
    show w.lastNumber + 1 ≤ number ∧ number < w.lastNumber + 1 + (number - w.lastNumber)
    omega

/-- **When the ids of a restored workflow never come back.** Whatever nodes and connections are added and removed, no
connection is given an id that one of the workflow has had before, if and only if none of the ids that the workflow
came with is numbered beyond the number of its connections. -/
theorem idsHad_nodup_iff (hw : w.Restored) :
    (∀ edits : List Edit, (∀ e ∈ edits, e.addsOrRemoves = true) → (w.idsHad edits).Nodup) ↔
      ∀ c ∈ w.connections, ∀ number, c.id = connectionId number → number ≤ w.connections.length := by
  obtain ⟨hsound, hlast⟩ := hw.spec
  rw [← hlast]
  constructor
  · intro hnever c hc number hid
    by_contra hbeyond
    obtain ⟨edits, hedits, hmade⟩ := exists_edits_making hsound hc hid (by omega)
    exact (List.nodup_append.1 (hnever edits hedits)).2.2 c.id (List.mem_map_of_mem hc) c.id hmade rfl
  · intro hcounted edits _
    exact Counted.idsHad_nodup hcounted hsound.connectionIds_nodup edits

/-- A source joined to a transform by the only connection, which has the given id. -/
def joinedBy (id : String) : Workflow :=
  .ofParts "restored" [⟨"a", .source, "input", .empty⟩, ⟨"b", .transform, "trim", .empty⟩] [⟨id, "a", "b"⟩]

/-- The first number is counted, so a connection that has it keeps it for good. -/
theorem idsHad_nodup_joinedBy : (joinedBy (connectionId 1)).Restored ∧
    ∀ edits : List Edit, (∀ e ∈ edits, e.addsOrRemoves = true) →
      ((joinedBy (connectionId 1)).idsHad edits).Nodup := by
  have hchecked : (joinedBy (connectionId 1)).checkIntegrity = .ok () := rfl
  refine ⟨.parts hchecked, (idsHad_nodup_iff (.parts hchecked)).2 ?_⟩
  intro c hc number hid
  rw [List.mem_singleton.1 hc] at hid
  rw [← connectionId_injective hid]
  exact Nat.le_refl 1

/-- The second number is beyond the count of one connection. Removed and made again, the connection has its old id. -/
theorem idsHad_joinedBy_second : (joinedBy "conn-2").Restored ∧
    (joinedBy "conn-2").idsHad [.removeConnection "conn-2", .connect "a" "b"] = ["conn-2", "conn-2"] ∧
    ¬ ∀ edits : List Edit, (∀ e ∈ edits, e.addsOrRemoves = true) →
      ((joinedBy "conn-2").idsHad edits).Nodup := by
  have hchecked : (joinedBy "conn-2").checkIntegrity = .ok () := rfl
  have hagain : (joinedBy "conn-2").idsHad [.removeConnection "conn-2", .connect "a" "b"] = ["conn-2", "conn-2"] :=
    rfl
  refine ⟨.parts hchecked, hagain, ?_⟩
  intro hnever
  have hnodup := hnever [.removeConnection "conn-2", .connect "a" "b"] (by decide)
  rw [hagain] at hnodup
  exact absurd hnodup (by decide)

end Workflow

end Dataflow
