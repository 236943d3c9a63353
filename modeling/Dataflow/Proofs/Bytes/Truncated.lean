import Dataflow.Proofs.Bytes.Stored
/-!
What is stored in part is refused.

A decoder takes bytes from the front and never looks behind those that it takes. So whatever it makes of some bytes,
it makes of them with more behind (`Decoder.Extends`). Put together with what `Proofs.Bytes.Reads` says, that it takes
all the bytes of the value that was written, nothing can come of a part of them: with the missing bytes put back it
would leave these over (`Decoder.Reads.truncated`).

The one decoder that does look at the length of what is there is that of values, which goes no deeper than the bytes
could. For it the bound has to be let go up, and so the property is one of two decoders.
-/

set_option autoImplicit false

namespace Dataflow

namespace Decoder

variable {α β : Type}

/-- What `d` makes of some bytes, `e` makes of them with more behind, and leaves the rest alone. -/
def Extends (d e : Decoder α) : Prop :=
  ∀ bytes x rest, d.run bytes = some (x, rest) → ∀ more, e.run (bytes ++ more) = some (x, rest ++ more)

namespace Extends

/-! ## Decoders put together -/

theorem pure (x : α) : Extends (Pure.pure x) (Pure.pure x) := by
  intro bytes y rest h more
  obtain ⟨rfl, rfl⟩ := Prod.mk.inj (Option.some.inj h)
  rfl

theorem failure (e : Decoder α) : Extends failure e := by
  intro bytes x rest h
  cases h

theorem bind {d e : Decoder α} {f g : α → Decoder β} (h : d.Extends e) (hf : ∀ x, (f x).Extends (g x)) :
    (d >>= f).Extends (e >>= g) := by
  intro bytes y rest hread more
  rw [StateT.run_bind] at hread ⊢
  obtain ⟨⟨x, middle⟩, hx, hy⟩ := Option.bind_eq_some_iff.1 hread
  rw [h bytes x middle hx more]
  exact hf x middle y rest hy more

theorem map {d e : Decoder α} (f : α → β) (h : d.Extends e) : (f <$> d).Extends (f <$> e) := by
  rw [← bind_pure_comp, ← bind_pure_comp]
  exact h.bind fun x => .pure (f x)

/-! ## Elements -/

theorem byte : Decoder.byte.Extends Decoder.byte := by
  intro bytes x rest h more
  cases bytes with
  | nil => cases h
  | cons b bytes =>
    obtain ⟨rfl, rfl⟩ := Prod.mk.inj (Option.some.inj h)
    rfl

theorem bytes (n : Nat) : (Decoder.bytes n).Extends (Decoder.bytes n) := by
  induction n with
  | zero => exact .pure []
  | succ n ih => exact byte.bind fun b => ih.bind fun rest => .pure (b :: rest)

theorem littleEndian (width : Nat) : (Decoder.littleEndian width).Extends (Decoder.littleEndian width) := by
  induction width with
  | zero => exact .pure 0
  | succ width ih => exact byte.bind fun low => ih.bind fun high => .pure (low.toNat + 256 * high)

theorem varint (widest : Nat) : (Decoder.varint widest).Extends (Decoder.varint widest) := by
  unfold Decoder.varint
  refine byte.bind fun first => ?_
  -- The first byte is the number itself, or says how many bytes hold it.
  by_cases hsmall : first.toNat ≤ 250
  · simp only [hsmall, if_true]
    exact .pure first.toNat
  · simp only [hsmall, if_false]
    by_cases hwidth : Nat.pow 2 (first.toNat - 250) ≤ widest
    · simp only [hwidth, if_true]
      exact littleEndian _
    · simp only [hwidth, if_false]
      exact .failure _

theorem nat : Decoder.nat.Extends Decoder.nat := varint 8

theorem alternative : Decoder.alternative.Extends Decoder.alternative := varint 4

theorem bool : Decoder.bool.Extends Decoder.bool := by
  unfold Decoder.bool
  refine byte.bind fun b => ?_
  split
  · exact .pure false
  · exact .pure true
  · exact .failure _

theorem text : Decoder.text.Extends Decoder.text := by
  unfold Decoder.text
  refine nat.bind fun length => (bytes length).bind fun utf8 => ?_
  split
  · exact .pure _
  · exact .failure _

theorem option {d e : Decoder α} (h : d.Extends e) : (Decoder.option d).Extends (Decoder.option e) := by
  unfold Decoder.option
  refine byte.bind fun b => ?_
  split
  · exact .pure none
  · exact h.map some
  · exact .failure _

theorem times {d e : Decoder α} (h : d.Extends e) (n : Nat) : (Decoder.times d n).Extends (Decoder.times e n) := by
  induction n with
  | zero => exact .pure []
  | succ n ih => exact h.bind fun x => ih.bind fun xs => .pure (x :: xs)

theorem list {d e : Decoder α} (h : d.Extends e) : (Decoder.list d).Extends (Decoder.list e) := nat.bind h.times

theorem entries {d e : Decoder α} (h : d.Extends e) :
    (Decoder.list (do return (← Decoder.text, ← d))).Extends (Decoder.list (do return (← Decoder.text, ← e))) :=
  list (text.bind fun key => h.bind fun x => .pure (key, x))

theorem dict {d e : Decoder α} (h : d.Extends e) : (Decoder.dict d).Extends (Decoder.dict e) := h.entries.map _

/-! ## Values -/

/-- At a greater depth no less is read. -/
theorem valueBelow {depth deeper : Nat} (hdepth : depth ≤ deeper) :
    (Decoder.valueBelow depth).Extends (Decoder.valueBelow deeper) := by
  induction depth generalizing deeper with
  | zero => exact .failure _
  | succ depth ih =>
    obtain ⟨deeper, rfl⟩ : ∃ n, deeper = n + 1 := ⟨deeper - 1, by omega⟩
    -- What is inside a list or a map is read one level less deep, on both sides.
    have hinner : (Decoder.valueBelow depth).Extends (Decoder.valueBelow deeper) := ih (by omega)
    unfold Decoder.valueBelow
    refine alternative.bind fun n => ?_
    match n with
    | 0 => exact .pure Value.null
    | 1 => exact bool.map Value.bool
    | 2 => exact (littleEndian 8).bind fun bits => .pure _
    | 3 => exact text.map Value.text
    | 4 => exact hinner.list.map Value.list
    | 5 => exact hinner.entries.map Value.mapOf
    | _ + 6 => exact .failure _

theorem value : Decoder.value.Extends Decoder.value := by
  intro bytes x rest h more
  -- The depth goes by the bytes there are, and with more behind there are no fewer.
  have hlength : bytes.length ≤ (bytes ++ more).length := by
    rw [List.length_append]
    omega
  exact valueBelow hlength bytes x rest h more

/-! ## Workflows -/

theorem role : Decoder.role.Extends Decoder.role := by
  unfold Decoder.role
  refine alternative.bind fun n => ?_
  split
  · exact .pure Role.source
  · exact .pure Role.transform
  · exact .pure Role.sink
  · exact .failure _

theorem node : Decoder.node.Extends Decoder.node :=
  text.bind fun _ => role.bind fun _ => text.bind fun _ => value.dict.bind fun _ => .pure _

theorem connection : Decoder.connection.Extends Decoder.connection :=
  text.bind fun _ => text.bind fun _ => text.bind fun _ => .pure _

theorem workflow : Decoder.workflow.Extends Decoder.workflow :=
  text.bind fun _ => text.bind fun _ => node.list.bind fun _ => connection.list.bind fun _ => bool.bind fun _ =>
    nat.bind fun _ => .pure _

/-! ## Runs -/

theorem handlerError : Decoder.handlerError.Extends Decoder.handlerError := by
  unfold Decoder.handlerError
  refine alternative.bind fun n => ?_
  split
  · exact text.bind fun _ => text.bind fun _ => value.bind fun _ => .pure _
  · exact text.map HandlerError.invalidConfig
  · exact text.map HandlerError.completion
  · exact text.map HandlerError.failed
  · exact .failure _

theorem runError : Decoder.runError.Extends Decoder.runError := by
  unfold Decoder.runError
  refine alternative.bind fun n => ?_
  split
  · exact handlerError.map RunError.handler
  · exact .pure RunError.cancelled
  · exact .failure _

theorem runFailure : Decoder.runFailure.Extends Decoder.runFailure :=
  text.bind fun _ => text.bind fun _ => runError.bind fun _ => .pure _

theorem stepOutcome : Decoder.stepOutcome.Extends Decoder.stepOutcome := by
  unfold Decoder.stepOutcome
  refine alternative.bind fun n => ?_
  split
  · exact text.map StepOutcome.completed
  · exact text.map StepOutcome.failed
  · exact .failure _

theorem traceEntry : Decoder.traceEntry.Extends Decoder.traceEntry :=
  nat.bind fun _ => text.bind fun _ => text.bind fun _ => stepOutcome.bind fun _ => nat.bind fun _ => .pure _

theorem runStatus : Decoder.runStatus.Extends Decoder.runStatus := by
  unfold Decoder.runStatus
  refine alternative.bind fun n => ?_
  split
  · exact .pure RunStatus.succeeded
  · exact .pure RunStatus.failed
  · exact .failure _

theorem runResult : Decoder.runResult.Extends Decoder.runResult :=
  value.dict.bind fun _ => value.dict.bind fun _ => traceEntry.list.bind fun _ => runStatus.bind fun _ =>
    runFailure.option.bind fun _ => nat.bind fun _ => .pure _

end Extends

end Decoder

/-! ## Truncated bytes -/

theorem Bytes.ofNat_ne_nil (n : Nat) : Bytes.ofNat n ≠ [] := by
  unfold Bytes.ofNat
  split_ifs <;> simp

/-- A workflow is never stored as nothing at all: there is at least the length of its name. -/
theorem Workflow.toBytes_ne_nil (w : Workflow) : w.toBytes ≠ [] := by
  simp [Workflow.toBytes, Bytes.ofText, Bytes.ofNat_ne_nil]

theorem RunResult.toBytes_ne_nil (r : RunResult) : r.toBytes ≠ [] := by
  simp [RunResult.toBytes, Bytes.ofDict, Bytes.ofList, Bytes.ofNat_ne_nil]

/-- **Nothing comes of a part.** A decoder that takes all the bytes of a value makes nothing of fewer of them: put
back, those that are missing would be left over. -/
theorem Decoder.Reads.truncated {α : Type} {d : Decoder α} {bytes front : Bytes} {x : α} (h : d.Reads bytes x)
    (hd : d.Extends d) (hfront : front <+: bytes) (hne : front ≠ bytes) : d.decode? front = none := by
  obtain ⟨missing, rfl⟩ := hfront
  cases hread : d.run front with
  | none => rw [Decoder.decode?, hread, Option.map_none]
  | some result =>
    obtain ⟨y, rest⟩ := result
    -- The same bytes are read twice: as the front with more behind, and as those of the value.
    have hlonger : d.run (front ++ missing) = some (y, rest ++ missing) := hd front y rest hread missing
    have hall : d.run (front ++ missing) = some (x, []) := by
      have hnothing := h []
      rwa [List.append_nil] at hnothing
    rw [hall] at hlonger
    have hleft : [] = rest ++ missing := (Prod.mk.inj (Option.some.inj hlonger)).2
    have hmissing : missing = [] := (List.append_eq_nil_iff.1 hleft.symm).2
    rw [hmissing, List.append_nil] at hne
    exact absurd rfl hne

namespace ByteStore

/-- Where the decoder makes nothing of the bytes under a key, the look-up says that they are no such thing. -/
theorem loadAs_eq_decode_error {σ α : Type} [ByteStore σ] {d : Decoder α} {bytes : Bytes} {s : σ} {key : String}
    (h : load s key = .ok (some bytes)) (hd : d.decode? bytes = none) :
    ∃ detail, loadAs d s key = .error (.decode key detail) := by
  rw [loadAs, h]
  simp only [Except.bind, bind, hd]
  exact ⟨_, rfl⟩

/-- **A save that was cut short is noticed.** Whatever store holds just a part of the bytes of a workflow or of a
result, be it none of them, the look-up under their key ends with a decoding error and gives nothing. -/
theorem truncated_refused {w : Workflow} {r : RunResult} (hw : w.Storable) (hr : r.Storable) :
    w.toBytes ≠ [] ∧ r.toBytes ≠ [] ∧
      ∀ (σ : Type) [ByteStore σ] (s : σ) (key : String) (front : Bytes), load s key = .ok (some front) →
        (front <+: w.toBytes → front ≠ w.toBytes →
          ∃ detail, loadWorkflow s key = .error (.decode key detail)) ∧
        (front <+: r.toBytes → front ≠ r.toBytes →
          ∃ detail, loadRun s key = .error (.decode key detail)) := by
  have hworkflow : Decoder.workflow.Reads w.toBytes w := Decoder.reads_workflow hw
  have hrun : Decoder.runResult.Reads r.toBytes r := Decoder.reads_runResult hr
  refine ⟨w.toBytes_ne_nil, r.toBytes_ne_nil, ?_⟩
  intro σ _ s key front h
  refine ⟨fun hfront hne => ?_, fun hfront hne => ?_⟩
  · exact loadAs_eq_decode_error h (hworkflow.truncated .workflow hfront hne)
  · exact loadAs_eq_decode_error h (hrun.truncated .runResult hfront hne)

/-- A workflow whose name has a character of two bytes. -/
def accented : Workflow := .ofParts "é" [⟨"a", .source, "constant", .ofList [("value", archivedValue)]⟩] []

/-- A run whose time takes three bytes. -/
def timed : RunResult := ⟨.ofList [("a", archivedValue)], .empty, [], .succeeded, none, 300⟩

/-- The one is cut inside the character, the other inside the time. -/
theorem truncated_refused_inside : accented.Storable ∧ timed.Storable ∧
    (∃ detail, loadWorkflow (⟨.ofList [("flow", [2, 0xC3])]⟩ : MemoryStore) "flow" = .error (.decode "flow" detail)) ∧
    ∃ detail, loadRun (⟨.ofList [("run", timed.toBytes.dropLast)]⟩ : MemoryStore) "run" =
      .error (.decode "run" detail) := by
  have hworkflow : accented.Storable := by
    refine ⟨by decide, by decide, by decide, ?_, by decide, by simp [accented, Workflow.ofParts], by decide⟩
    exact List.forall_mem_singleton.2 ⟨by decide, by decide, storable_singleton (by decide) storable_archivedValue⟩
  have hrun : timed.Storable := by
    refine ⟨storable_singleton (by decide) storable_archivedValue, storable_empty, by decide, by simp [timed],
      by simp [timed], by decide⟩
  obtain ⟨-, hbytes, hrefused⟩ := truncated_refused hworkflow hrun
  refine ⟨hworkflow, hrun, ?_, ?_⟩
  · have hload : load (⟨.ofList [("flow", [2, 0xC3])]⟩ : MemoryStore) "flow" = .ok (some [2, 0xC3]) := by rfl
    refine (hrefused MemoryStore _ "flow" [2, 0xC3] hload).1 ?_ ?_
    · decide
    · decide
  · have hload : load (⟨.ofList [("run", timed.toBytes.dropLast)]⟩ : MemoryStore) "run" =
        .ok (some timed.toBytes.dropLast) := by rfl
    refine (hrefused MemoryStore _ "run" _ hload).2 (List.dropLast_prefix _) ?_
    intro h
    have hlength := congrArg List.length h
    rw [List.length_dropLast] at hlength
    have hpositive := List.length_pos_iff.2 hbytes
    omega

end ByteStore

end Dataflow
