import Dataflow.Proofs.Graph.Edit
/-!
A new connection, and how it is taken back.

A workflow may have come in as a whole, with ids of connections that repeat or that are numbered far ahead of its
count. The search for the id of the next connection goes on until it meets one that is not in use, and nothing in it
says when that is. The ids that it looks at are all different, so the connections there are cannot have all of them,
and one round more than there are connections is enough. The count has 64 bits; as long as it has room for that many
rounds, it does not overflow (`freeWithin_eq`).

An id that no connection has makes taking back exact: the first connection with the id is the one that was added, so
to add a connection and to remove it by its id leaves all others where they were (`connect_taken_back`). Only the
count remembers.
-/

set_option autoImplicit false

namespace Dataflow.Workflow

variable {w v : Workflow} {c : Connection}

/-! ## The search for a free id -/

/-- The search for a free id with a counter of 64 bits, in at most so many rounds. A round raises the counter by one
and looks for a connection that has the id with this number. Nothing is found if the rounds run out or if the counter
overflows. -/
def freeWithin (w : Workflow) : Nat → UInt64 → Option UInt64
  | 0, _ => none
  | rounds + 1, counter =>
    if counter.toNat + 1 = UInt64.size then none
    else if (w.connection? (connectionId (counter + 1).toNat)).isSome then w.freeWithin rounds (counter + 1)
    else some (counter + 1)

/-- The search arrives at the first number that is free, given the rounds to get there and a counter that can hold
it. -/
theorem freeWithin_eq {rounds last number : Nat} (hlater : last < number) (hrounds : number ≤ last + rounds)
    (hsize : number < UInt64.size) (hfree : connectionId number ∉ w.connections.map (·.id))
    (hpassed : ∀ k, last < k → k < number → connectionId k ∈ w.connections.map (·.id)) :
    w.freeWithin rounds (.ofNat last) = some (.ofNat number) := by
  induction rounds generalizing last with
  | zero => omega
  | succ rounds ih =>
    have hword : (UInt64.ofNat last).toNat = last := UInt64.toNat_ofNat_of_lt (by omega)
    have hnext : UInt64.ofNat last + 1 = UInt64.ofNat (last + 1) := by simp [UInt64.ofNat_add]
    have hnextWord : (UInt64.ofNat (last + 1)).toNat = last + 1 := UInt64.toNat_ofNat_of_lt (by omega)
    rw [freeWithin, hword, if_neg (by omega), hnext, hnextWord]
    by_cases hlast : last + 1 = number
    · have hnone : w.connection? (connectionId number) = none := connection?_eq_none_iff.2 hfree
      simp [hlast, hnone]
    · -- A number before the first free one is in use, and the search goes on from it.
      have hused : connectionId (last + 1) ∈ w.connections.map (·.id) := hpassed (last + 1) (by omega) (by omega)
      have hsome : (w.connection? (connectionId (last + 1))).isSome = true := by
        rw [Option.isSome_iff_ne_none]
        intro hnone
        exact connection?_eq_none_iff.1 hnone hused
      rw [if_pos hsome]
      apply ih
      · omega
      · omega
      · intro k hk hlt
        exact hpassed k (by omega) hlt

/-- One round more than there are connections is enough for the number of the next connection. -/
theorem freeWithin_connections (hroom : w.lastNumber + w.connections.length < UInt64.size - 1) :
    w.freeWithin (w.connections.length + 1) (.ofNat w.lastNumber) = some (.ofNat w.nextNumber) ∧
      w.nextNumber < UInt64.size := by
  obtain ⟨hlater, hfree, hpassed⟩ := w.nextNumber_spec
  have hle : w.nextNumber ≤ w.lastNumber + 1 + w.connections.length := freeNumber_le _ _ _
  have hsize : w.nextNumber < UInt64.size := by omega
  exact ⟨freeWithin_eq hlater (by omega) hsize hfree hpassed, hsize⟩

/-! ## Adding and taking back -/

/-- What there is of a connection that has been added, and of the workflow that it was added to. -/
theorem eq_of_connect {origin target : String} (h : w.connect origin target = .ok (c, v)) :
    c = ⟨connectionId w.nextNumber, origin, target⟩ ∧
      v = { w with connections := w.connections ++ [c], lastNumber := w.nextNumber } := by
  cases hcheck : w.checkConnection origin target with
  | error error =>
    rw [connect_of_error hcheck] at h
    cases h
  | ok u =>
    rw [connect_of_ok hcheck] at h
    cases h
    exact ⟨rfl, rfl⟩

/-- **A new connection has an id of its own and can be taken back.** Whatever ids the connections of a workflow have,
if the count has room for one number more than there are connections, the search for the id of the next connection
ends in that many rounds or fewer, and the id with the number found is one that no connection has. A connection that
is then added gets this id and comes last, its id finds it, and removed by its id it leaves the workflow as it was
before, up to the count. -/
theorem connect_taken_back (w : Workflow) (hroom : w.lastNumber + w.connections.length < UInt64.size - 1) :
    (∃ number : UInt64, w.freeWithin (w.connections.length + 1) (.ofNat w.lastNumber) = some number ∧
      number.toNat = w.nextNumber ∧ ∀ d ∈ w.connections, d.id ≠ connectionId number.toNat) ∧
    ∀ origin target c v, w.connect origin target = .ok (c, v) →
      c = ⟨connectionId w.nextNumber, origin, target⟩ ∧ v.connections = w.connections ++ [c] ∧
      v.connection? c.id = some c ∧
      v.removeConnection c.id = some (c, { w with lastNumber := w.nextNumber }) := by
  obtain ⟨-, hfree, -⟩ := w.nextNumber_spec
  constructor
  · obtain ⟨hfound, hsize⟩ := freeWithin_connections hroom
    have hword : (UInt64.ofNat w.nextNumber).toNat = w.nextNumber := UInt64.toNat_ofNat_of_lt hsize
    refine ⟨_, hfound, hword, ?_⟩
    intro d hd hid
    rw [hword] at hid
    exact hfree (List.mem_map.2 ⟨d, hd, hid⟩)
  · intro origin target c v h
    obtain ⟨hc, hv⟩ := eq_of_connect h
    have hlast : v.connections = w.connections ++ [c] := by rw [hv]
    have hothers : ∀ d ∈ w.connections, d.id ≠ c.id := by
      intro d hd hid
      rw [hc] at hid
      exact hfree (List.mem_map.2 ⟨d, hd, hid⟩)
    refine ⟨hc, hlast, connection?_of_split hlast hothers, ?_⟩
    rw [removeConnection_of_split hlast hothers, List.append_nil, hv]

/-- Two connections with one id, whose number is the next to come. -/
def ahead : Workflow :=
  .ofParts "ahead" (["a", "b", "c"].map fun id => ⟨id, .transform, "trim", .empty⟩)
    [⟨"conn-3", "a", "b"⟩, ⟨"conn-3", "b", "c"⟩]

/-- The id in use is passed over in the second of the three rounds, and the connection with the next one goes without
taking any other along. -/
theorem connect_taken_back_ahead :
    ahead.lastNumber + ahead.connections.length < UInt64.size - 1 ∧ ahead.freeWithin 3 2 = some 4 ∧
      ∃ v, ahead.connect "a" "c" = .ok (⟨"conn-4", "a", "c"⟩, v) ∧
        v.removeConnection "conn-4" = some (⟨"conn-4", "a", "c"⟩, { ahead with lastNumber := 4 }) := by
  have hroom : ahead.lastNumber + ahead.connections.length < UInt64.size - 1 := by decide
  have hconnect : ahead.connect "a" "c" = .ok (⟨"conn-4", "a", "c"⟩,
      { ahead with connections := ahead.connections ++ [⟨"conn-4", "a", "c"⟩], lastNumber := 4 }) := by cbv
  have hnumber : ahead.nextNumber = 4 := by cbv
  obtain ⟨⟨number, hfound, hword, -⟩, hback⟩ := connect_taken_back ahead hroom
  obtain ⟨-, -, -, hremoved⟩ := hback _ _ _ _ hconnect
  rw [hnumber] at hword hremoved
  have hfour : number = 4 := UInt64.toNat_inj.1 hword
  rw [hfour] at hfound
  exact ⟨hroom, hfound, _, hconnect, hremoved⟩

end Dataflow.Workflow
