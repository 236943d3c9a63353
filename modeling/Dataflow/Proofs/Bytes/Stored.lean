import Dataflow.Proofs.Bytes.Reads
import Dataflow.Store
/-!
What is stored comes back.

Values, workflows and results of runs are read as they were written, to the last bit of every number, and what
stands behind them is left alone. So no two workflows and no two results have the same form, and a store that gives
back the bytes it was given gives back the workflow or the result (`stored_comes_back`).

Two things are asked of what is stored. Lengths and counts are below `2^64`, as they are wherever a length has a
machine word. And the maps inside values have ascending keys: the type of values leaves that open, and a map is
stored with its entries as they stand but read as a dictionary.
-/

set_option autoImplicit false

namespace Dataflow

/-! ## Values one inside the other -/

namespace Value

theorem canonicalItems_iff {vs : List Value} : CanonicalItems vs ↔ ∀ v ∈ vs, v.Canonical := by
  induction vs with
  | nil => simp [CanonicalItems]
  | cons v vs ih => rw [CanonicalItems, ih, List.forall_mem_cons]

theorem canonicalEntries_iff {es : List (String × Value)} : CanonicalEntries es ↔ ∀ e ∈ es, e.2.Canonical := by
  induction es with
  | nil => simp [CanonicalEntries]
  | cons e es ih => rw [CanonicalEntries, ih, List.forall_mem_cons]

mutual

/-- All texts in a value have fewer than `2^64` bytes, and all lists and maps fewer items. -/
def Fits : Value → Prop
  | .text s => s.utf8ByteSize < countLimit
  | .list items => items.length < countLimit ∧ ItemsFit items
  | .map entries => entries.length < countLimit ∧ EntriesFit entries
  | .null | .bool _ | .number _ => True

def ItemsFit : List Value → Prop
  | [] => True
  | v :: vs => v.Fits ∧ ItemsFit vs

def EntriesFit : List (String × Value) → Prop
  | [] => True
  | (k, v) :: es => (k.utf8ByteSize < countLimit ∧ v.Fits) ∧ EntriesFit es

end

theorem itemsFit_iff {vs : List Value} : ItemsFit vs ↔ ∀ v ∈ vs, v.Fits := by
  induction vs with
  | nil => simp [ItemsFit]
  | cons v vs ih => rw [ItemsFit, ih, List.forall_mem_cons]

theorem entriesFit_iff {es : List (String × Value)} :
    EntriesFit es ↔ ∀ e ∈ es, e.1.utf8ByteSize < countLimit ∧ e.2.Fits := by
  induction es with
  | nil => simp [EntriesFit]
  | cons e es ih => rw [EntriesFit, ih, List.forall_mem_cons]

/-- A value that comes back when it is stored. -/
structure Storable (v : Value) : Prop where
  canonical : v.Canonical
  fits : v.Fits

theorem Storable.of_mem_list {items : List Value} (h : (Value.list items).Storable) {v : Value} (hv : v ∈ items) :
    v.Storable where
  canonical := canonicalItems_iff.1 h.canonical v hv
  fits := itemsFit_iff.1 h.fits.2 v hv

theorem Storable.of_mem_map {entries : List (String × Value)} (h : (Value.map entries).Storable)
    {e : String × Value} (he : e ∈ entries) : e.1.utf8ByteSize < countLimit ∧ e.2.Storable := by
  obtain ⟨hkey, hvalue⟩ := entriesFit_iff.1 h.fits.2 e he
  exact ⟨hkey, canonicalEntries_iff.1 h.canonical.2 e he, hvalue⟩

/-! ## The form of values -/

theorem toBytes_list (items : List Value) : (Value.list items).toBytes = 4 :: Bytes.ofList toBytes items := by
  have hitems (vs : List Value) : itemBytes vs = vs.flatMap toBytes := by
    induction vs with
    | nil => rfl
    | cons v vs ih => rw [itemBytes, ih, List.flatMap_cons]
  rw [toBytes, hitems, Bytes.ofList]

theorem toBytes_map (entries : List (String × Value)) : (Value.map entries).toBytes =
    5 :: Bytes.ofList (fun e : String × Value => Bytes.ofText e.1 ++ e.2.toBytes) entries := by
  have hentries (es : List (String × Value)) :
      entryBytes es = es.flatMap fun e => Bytes.ofText e.1 ++ e.2.toBytes := by
    induction es with
    | nil => rfl
    | cons e es ih => rw [entryBytes, ih, List.flatMap_cons]
  rw [toBytes, hentries, Bytes.ofList]

end Value

/-- What is written of an item is part of what is written of the list. -/
theorem Bytes.length_le_length_ofList {α : Type} (item : α → Bytes) {items : List α} {x : α} (hx : x ∈ items) :
    (item x).length ≤ (Bytes.ofList item items).length := by
  obtain ⟨front, back, rfl⟩ := List.append_of_mem hx
  simp only [ofList, List.flatMap_append, List.flatMap_cons, List.length_append]
  omega

theorem Value.toBytes_ne_nil (v : Value) : v.toBytes ≠ [] := by
  cases v <;> simp [toBytes]

namespace Decoder

/-- A value is read at every depth for which its bytes would do, because every level takes one. -/
theorem reads_valueBelow {v : Value} (hv : v.Storable) {depth : Nat} (hdepth : v.toBytes.length ≤ depth) :
    (valueBelow depth).Reads v.toBytes v := by
  induction depth generalizing v with
  | zero => exact absurd (List.length_eq_zero_iff.1 (Nat.le_zero.1 hdepth)) v.toBytes_ne_nil
  | succ depth ih =>
    cases v with
    | null => exact (reads_alternative (n := 0) (by decide)).last (.pure _)
    | bool b => exact (reads_alternative (n := 1) (by decide)).bind ((reads_bool b).map Value.bool)
    | number x =>
      have hnumber : (Pure.pure (Value.number ⟨UInt64.ofNat x.bits.toNat⟩) : Decoder Value).Reads [] (.number x) := by
        rw [UInt64.ofNat_toNat]
        exact .pure _
      exact (reads_alternative (n := 2) (by decide)).bind ((reads_littleEndian x.bits.toNat_lt).last hnumber)
    | text s => exact (reads_alternative (n := 3) (by decide)).bind ((reads_text hv.fits).map Value.text)
    | list items =>
      rw [Value.toBytes_list] at hdepth ⊢
      rw [List.length_cons] at hdepth
      have hitems : (list (valueBelow depth)).Reads (Bytes.ofList Value.toBytes items) items := by
        refine reads_list hv.fits.1 fun v hmem => ih (hv.of_mem_list hmem) ?_
        have hlength := Bytes.length_le_length_ofList Value.toBytes hmem
        omega
      exact (reads_alternative (n := 4) (by decide)).bind (hitems.map Value.list)
    | map entries =>
      rw [Value.toBytes_map] at hdepth ⊢
      rw [List.length_cons] at hdepth
      have hentries : (list (do return (← text, ← valueBelow depth))).Reads
          (Bytes.ofList (fun e : String × Value => Bytes.ofText e.1 ++ e.2.toBytes) entries) entries := by
        refine reads_entries hv.fits.1 fun e hmem => ?_
        obtain ⟨hkey, hvalue⟩ := hv.of_mem_map hmem
        have hlength :=
          Bytes.length_le_length_ofList (fun e : String × Value => Bytes.ofText e.1 ++ e.2.toBytes) hmem
        rw [List.length_append] at hlength
        exact ⟨hkey, ih hvalue (by omega)⟩
      -- The entries are in the order of their keys, so they are put together as they stand.
      have hsorted : Value.mapOf entries = .map entries :=
        congrArg (fun d : Dict Value => Value.map d.entries) (Dict.ofList_entries ⟨entries, hv.canonical.1⟩)
      rw [← hsorted]
      exact (reads_alternative (n := 5) (by decide)).bind (hentries.map Value.mapOf)

theorem reads_value {v : Value} (hv : v.Storable) : value.Reads v.toBytes v := by
  intro rest
  have hdepth : v.toBytes.length ≤ (v.toBytes ++ rest).length := by
    rw [List.length_append]
    omega
  exact reads_valueBelow hv hdepth rest

end Decoder

/-! ## Settings, nodes and connections -/

/-- A dictionary of values that comes back. -/
structure Dict.Storable (d : Dict Value) : Prop where
  size : d.entries.length < countLimit
  entries : ∀ e ∈ d.entries, e.1.utf8ByteSize < countLimit ∧ e.2.Storable

structure Node.Storable (n : Node) : Prop where
  id : n.id.utf8ByteSize < countLimit
  kind : n.kind.utf8ByteSize < countLimit
  config : Dict.Storable n.config

structure Connection.Storable (c : Connection) : Prop where
  id : c.id.utf8ByteSize < countLimit
  origin : c.origin.utf8ByteSize < countLimit
  target : c.target.utf8ByteSize < countLimit

structure Workflow.Storable (w : Workflow) : Prop where
  name : w.name.utf8ByteSize < countLimit
  description : w.description.utf8ByteSize < countLimit
  nodes_length : w.nodes.length < countLimit
  nodes : ∀ n ∈ w.nodes, n.Storable
  connections_length : w.connections.length < countLimit
  connections : ∀ c ∈ w.connections, c.Storable
  lastNumber : w.lastNumber < countLimit

namespace Decoder

theorem reads_values {d : Dict Value} (hd : d.Storable) : (dict value).Reads (Bytes.ofDict Value.toBytes d) d :=
  reads_dict hd.size fun e he => ⟨(hd.entries e he).1, reads_value (hd.entries e he).2⟩

theorem reads_role (a : Role) : role.Reads a.toBytes a := by
  cases a with
  | source => exact (reads_alternative (n := 0) (by decide)).last (.pure _)
  | transform => exact (reads_alternative (n := 1) (by decide)).last (.pure _)
  | sink => exact (reads_alternative (n := 2) (by decide)).last (.pure _)

theorem reads_node {n : Node} (hn : n.Storable) : node.Reads n.toBytes n := by
  rw [Node.toBytes, List.append_assoc, List.append_assoc]
  exact (reads_text hn.id).bind <| (reads_role n.role).bind <| (reads_text hn.kind).bind <|
    (reads_values hn.config).last (.pure n)

theorem reads_connection {c : Connection} (hc : c.Storable) : connection.Reads c.toBytes c := by
  rw [Connection.toBytes, List.append_assoc]
  exact (reads_text hc.id).bind <| (reads_text hc.origin).bind <| (reads_text hc.target).last (.pure c)

theorem reads_workflow {w : Workflow} (hw : w.Storable) : workflow.Reads w.toBytes w := by
  simp only [Workflow.toBytes, List.append_assoc]
  exact (reads_text hw.name).bind <| (reads_text hw.description).bind <|
    (reads_list hw.nodes_length fun n hn => reads_node (hw.nodes n hn)).bind <|
    (reads_list hw.connections_length fun c hc => reads_connection (hw.connections c hc)).bind <|
    (reads_bool w.rules.forbidSourceToSink).bind <| (reads_nat hw.lastNumber).last (.pure w)

end Decoder

/-! ## Runs -/

def HandlerError.Storable : HandlerError → Prop
  | .typeMismatch operation expected found =>
    operation.utf8ByteSize < countLimit ∧ expected.utf8ByteSize < countLimit ∧ found.Storable
  | .invalidConfig message | .completion message | .failed message => message.utf8ByteSize < countLimit

def RunError.Storable : RunError → Prop
  | .handler error => error.Storable
  | .cancelled => True

structure RunFailure.Storable (f : RunFailure) : Prop where
  nodeId : f.nodeId.utf8ByteSize < countLimit
  kind : f.kind.utf8ByteSize < countLimit
  cause : f.cause.Storable

def StepOutcome.Storable : StepOutcome → Prop
  | .completed text | .failed text => text.utf8ByteSize < countLimit

structure TraceEntry.Storable (e : TraceEntry) : Prop where
  index : e.index < countLimit
  nodeId : e.nodeId.utf8ByteSize < countLimit
  kind : e.kind.utf8ByteSize < countLimit
  outcome : e.outcome.Storable
  elapsedMs : e.elapsedMs < countLimit

structure RunResult.Storable (r : RunResult) : Prop where
  outputs : r.outputs.Storable
  collected : r.collected.Storable
  log_length : r.log.length < countLimit
  log : ∀ e ∈ r.log, e.Storable
  failure : ∀ f, r.failure = some f → f.Storable
  elapsedMs : r.elapsedMs < countLimit

namespace Decoder

theorem reads_handlerError {error : HandlerError} (herror : error.Storable) :
    handlerError.Reads error.toBytes error := by
  cases error with
  | typeMismatch operation expected found =>
    obtain ⟨hoperation, hexpected, hfound⟩ := herror
    rw [HandlerError.toBytes, List.append_assoc]
    exact (reads_alternative (n := 0) (by decide)).bind <| (reads_text hoperation).bind <|
      (reads_text hexpected).bind <| (reads_value hfound).last (.pure _)
  | invalidConfig message =>
    exact (reads_alternative (n := 1) (by decide)).bind ((reads_text herror).map HandlerError.invalidConfig)
  | completion message =>
    exact (reads_alternative (n := 2) (by decide)).bind ((reads_text herror).map HandlerError.completion)
  | failed message =>
    exact (reads_alternative (n := 3) (by decide)).bind ((reads_text herror).map HandlerError.failed)

theorem reads_runError {error : RunError} (herror : error.Storable) : runError.Reads error.toBytes error := by
  cases error with
  | handler error =>
    exact (reads_alternative (n := 0) (by decide)).bind ((reads_handlerError herror).map RunError.handler)
  | cancelled => exact (reads_alternative (n := 1) (by decide)).last (.pure _)

theorem reads_runFailure {f : RunFailure} (hf : f.Storable) : runFailure.Reads f.toBytes f := by
  rw [RunFailure.toBytes, List.append_assoc]
  exact (reads_text hf.nodeId).bind <| (reads_text hf.kind).bind <| (reads_runError hf.cause).last (.pure f)

theorem reads_stepOutcome {o : StepOutcome} (ho : o.Storable) : stepOutcome.Reads o.toBytes o := by
  cases o with
  | completed summary =>
    exact (reads_alternative (n := 0) (by decide)).bind ((reads_text ho).map StepOutcome.completed)
  | failed message =>
    exact (reads_alternative (n := 1) (by decide)).bind ((reads_text ho).map StepOutcome.failed)

theorem reads_traceEntry {e : TraceEntry} (he : e.Storable) : traceEntry.Reads e.toBytes e := by
  simp only [TraceEntry.toBytes, List.append_assoc]
  exact (reads_nat he.index).bind <| (reads_text he.nodeId).bind <| (reads_text he.kind).bind <|
    (reads_stepOutcome he.outcome).bind <| (reads_nat he.elapsedMs).last (.pure e)

theorem reads_runStatus (a : RunStatus) : runStatus.Reads a.toBytes a := by
  cases a with
  | succeeded => exact (reads_alternative (n := 0) (by decide)).last (.pure _)
  | failed => exact (reads_alternative (n := 1) (by decide)).last (.pure _)

theorem reads_runResult {r : RunResult} (hr : r.Storable) : runResult.Reads r.toBytes r := by
  simp only [RunResult.toBytes, List.append_assoc]
  exact (reads_values hr.outputs).bind <| (reads_values hr.collected).bind <|
    (reads_list hr.log_length fun e he => reads_traceEntry (hr.log e he)).bind <|
    (reads_runStatus r.status).bind <|
    (reads_option fun f hf => reads_runFailure (hr.failure f hf)).bind <|
    (reads_nat hr.elapsedMs).last (.pure r)

end Decoder

/-! ## Stores -/

namespace ByteStore

/-- A store that gives back what was saved last under a key. -/
def Keeps (σ : Type) [ByteStore σ] : Prop :=
  ∀ (s t : σ) (key : String) (bytes : Bytes), save s key bytes = .ok t → load t key = .ok (some bytes)

theorem keeps_memoryStore : Keeps MemoryStore := by
  intro s t key bytes h
  obtain rfl := Except.ok.inj h
  exact congrArg Except.ok ((Dict.get?_insert s.entries key key bytes).trans (if_pos rfl))

/-- A folder takes bytes under a key whose file may have its name and does not stand for a folder. -/
theorem save_folder_eq_ok_iff {f t : Folder} {key : String} {bytes : Bytes} : save f key bytes = .ok t ↔
    ∃ name, f.fileName? key = .ok name ∧ f.entries.get? name ≠ some .folder ∧
      t = { f with entries := f.entries.insert name (.file bytes) } := by
  simp only [save, bind, Except.bind]
  cases f.fileName? key with
  | error error => simp
  | ok name =>
    cases hentry : f.entries.get? name with
    | none => simp [hentry, eq_comm]
    | some entry =>
      cases entry with
      | folder => simp [hentry]
      | file content => simp [hentry, eq_comm]

theorem keeps_folder : Keeps Folder := by
  intro f t key bytes h
  obtain ⟨name, hname, -, rfl⟩ := save_folder_eq_ok_iff.1 h
  have hentry : (f.entries.insert name (.file bytes)).get? name = some (.file bytes) :=
    (Dict.get?_insert ..).trans (if_pos rfl)
  have hfile : Folder.fileName? { f with entries := f.entries.insert name (.file bytes) } key = .ok name := hname
  simp only [load, bind, Except.bind, hfile, hentry]

/-- A decoder that reads the bytes under a key is all that a look-up needs. -/
theorem loadAs_eq_ok {σ α : Type} [ByteStore σ] {d : Decoder α} {bytes : Bytes} {x : α} (hd : d.Reads bytes x) {s : σ}
    {key : String} (h : load s key = .ok (some bytes)) : loadAs d s key = .ok (some x) := by
  have hdecode : d.decode? bytes = some x := by
    rw [Decoder.decode?, ← List.append_nil bytes, hd]
    rfl
  rw [loadAs, h]
  simp only [Except.bind, bind, hdecode]

/-- **What is stored comes back.** A workflow and a result are read from their bytes, whatever stands behind these,
and no other has the same bytes. So a store that gives back bytes gives them back under the key that they were saved
under. The store in memory is of this kind and takes everything; a folder is, and takes whatever its keys allow. -/
theorem stored_comes_back {w : Workflow} {r : RunResult} (hw : w.Storable) (hr : r.Storable) :
    (∀ rest, Decoder.workflow.run (w.toBytes ++ rest) = some (w, rest)) ∧
      (∀ rest, Decoder.runResult.run (r.toBytes ++ rest) = some (r, rest)) ∧
      (∀ v : Workflow, v.Storable → v.toBytes = w.toBytes → v = w) ∧
      (∀ q : RunResult, q.Storable → q.toBytes = r.toBytes → q = r) ∧
      (∀ (σ : Type) [ByteStore σ], Keeps σ → ∀ (s t : σ) (key : String),
        (saveWorkflow s key w = .ok t → loadWorkflow t key = .ok (some w)) ∧
          (saveRun s key r = .ok t → loadRun t key = .ok (some r))) ∧
      (Keeps MemoryStore ∧ ∀ (s : MemoryStore) (key : String) (bytes : Bytes), ∃ t, save s key bytes = .ok t) ∧
      Keeps Folder ∧ ∀ (f : Folder) (key : String) (bytes : Bytes), (∃ t, save f key bytes = .ok t) ↔
        ∃ name, f.fileName? key = .ok name ∧ f.entries.get? name ≠ some .folder := by
  have hworkflow : Decoder.workflow.Reads w.toBytes w := Decoder.reads_workflow hw
  have hrun : Decoder.runResult.Reads r.toBytes r := Decoder.reads_runResult hr
  refine ⟨hworkflow, hrun, fun v hv h => ?_, fun q hq h => ?_, fun σ _ hkeeps s t key => ⟨fun h => ?_, fun h => ?_⟩,
    ⟨keeps_memoryStore, fun s key bytes => ⟨_, rfl⟩⟩, keeps_folder, fun f key bytes => ⟨?_, ?_⟩⟩
  · exact (Decoder.reads_workflow hv).eq_of_append hworkflow (by rw [h, List.append_nil])
  · exact (Decoder.reads_runResult hq).eq_of_append hrun (by rw [h, List.append_nil])
  · exact loadAs_eq_ok hworkflow (hkeeps s t key _ h)
  · exact loadAs_eq_ok hrun (hkeeps s t key _ h)
  · rintro ⟨t, ht⟩
    obtain ⟨name, hname, hentry, -⟩ := save_folder_eq_ok_iff.1 ht
    exact ⟨name, hname, hentry⟩
  · rintro ⟨name, hname, hentry⟩
    exact ⟨_, save_folder_eq_ok_iff.2 ⟨name, hname, hentry, rfl⟩⟩

/-! ### In an archive -/

/-- A map with a list and a number without a value inside. -/
def archivedValue : Value := .map [("left", .list [.null, .number .undefined]), ("right", .text "é")]

/-- A workflow whose next number takes more than one byte. -/
def archivedWorkflow : Workflow where
  name := "archive"
  nodes := [⟨"a", .source, "constant", .ofList [("value", archivedValue)]⟩, ⟨"b", .sink, "uppercase", .empty⟩]
  connections := [⟨"conn-1", "a", "b"⟩]
  rules := .strict
  lastNumber := 70000

/-- A run that failed, and took its time. -/
def archivedRun : RunResult where
  outputs := .ofList [("a", archivedValue)]
  collected := .empty
  log := [⟨0, "a", "constant", .completed "…", 251⟩, ⟨1, "b", "uppercase", .failed "no text", 0⟩]
  status := .failed
  failure := some ⟨"b", "uppercase", .handler (.typeMismatch "uppercase" "text" archivedValue)⟩
  elapsedMs := 0xFFFFFFFFFFFFFFFF

theorem storable_archivedValue : archivedValue.Storable where
  canonical := by
    refine ⟨?_, ⟨trivial, trivial, trivial⟩, trivial, trivial⟩
    unfold Entries.Sorted
    decide
  fits := by simp only [archivedValue, Value.Fits, Value.EntriesFit, Value.ItemsFit]; decide

theorem storable_singleton {key : String} (hkey : key.utf8ByteSize < countLimit) {v : Value} (hv : v.Storable) :
    Dict.Storable (.ofList [(key, v)]) where
  size := (by decide : 1 < countLimit)
  entries e he := by
    obtain rfl := List.mem_singleton.1 he
    exact ⟨hkey, hv⟩

theorem storable_empty : Dict.Storable .empty where
  size := by decide
  entries e he := nomatch he

/-- Both are kept in memory under one key after the other. -/
theorem stored_comes_back_archived : archivedWorkflow.Storable ∧ archivedRun.Storable ∧
    (∃ t, saveWorkflow ({} : MemoryStore) "flow" archivedWorkflow = .ok t ∧
      loadWorkflow t "flow" = .ok (some archivedWorkflow)) ∧
    ∃ t, saveRun ({} : Folder) "run" archivedRun = .ok t ∧ loadRun t "run" = .ok (some archivedRun) := by
  have hworkflow : archivedWorkflow.Storable := by
    refine ⟨by decide, by decide, by decide, ?_, by decide, ?_, by decide⟩
    · refine List.forall_mem_cons.2 ⟨⟨by decide, by decide, ?_⟩, List.forall_mem_singleton.2 ⟨by decide, by decide, ?_⟩⟩
      · exact storable_singleton (by decide) storable_archivedValue
      · exact storable_empty
    · exact List.forall_mem_singleton.2 ⟨by decide, by decide, by decide⟩
  have hrun : archivedRun.Storable := by
    refine ⟨storable_singleton (by decide) storable_archivedValue, storable_empty, by decide, ?_, ?_, by decide⟩
    · have hsummary : (StepOutcome.completed "…").Storable := (by decide : "…".utf8ByteSize < countLimit)
      have hmessage : (StepOutcome.failed "no text").Storable := (by decide : "no text".utf8ByteSize < countLimit)
      exact List.forall_mem_cons.2 ⟨⟨by decide, by decide, by decide, hsummary, by decide⟩,
        List.forall_mem_singleton.2 ⟨by decide, by decide, by decide, hmessage, by decide⟩⟩
    · intro f hf
      obtain rfl := Option.some.inj hf
      exact ⟨by decide, by decide, by decide, by decide, storable_archivedValue⟩
  obtain ⟨-, -, -, -, hstores, ⟨hmemory, htakes⟩, hfolder, hfree⟩ := stored_comes_back hworkflow hrun
  obtain ⟨t, ht⟩ := htakes {} "flow" archivedWorkflow.toBytes
  have hname : ({} : Folder).fileName? "run" = .ok "run.bin" := by
    have hkey : Folder.isKey "run" = true := by decide
    rw [Folder.fileName?, hkey]
    rfl
  obtain ⟨f, hf⟩ := (hfree {} "run" archivedRun.toBytes).2 ⟨"run.bin", hname, by decide⟩
  exact ⟨hworkflow, hrun, ⟨t, ht, (hstores MemoryStore hmemory {} t "flow").1 ht⟩,
    f, hf, (hstores Folder hfolder {} f "run").2 hf⟩

end ByteStore

end Dataflow
