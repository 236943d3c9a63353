import Dataflow.Report
import Dataflow.Proofs.Handler.Split
import Dataflow.Proofs.Number.Text
import Dataflow.Proofs.Run.Coherent
/-!
The lines of a report.

A report has a line for the status of the run and, under it, the steps that were attempted. What it says of a step
ends with a text that the step has brought about: the summary of its output or the message of its failure. This text
stands there as it is, and its line breaks break the line. So a step has one line exactly where its text has no line
break, and otherwise the rest of the text stands below on lines that nothing tells from those of other steps.

The main statement (`Registry.run_reported`) gives the lines of every report and says when there is one per step: if
none of the outputs has a line break in the part that its summary keeps, nor the message of the failure any.
-/

set_option autoImplicit false

namespace Dataflow

/-! ## Texts and their lines -/

section
variable {α : Type} [BEq α] [LawfulBEq α] {x : α} {front : List α}

/-- Elements in front of a list lengthen its first piece. -/
theorem splitOn_append_of_not_mem (h : x ∉ front) (back : List α) :
    (front ++ back).splitOn x = (back.splitOn x).modifyHead (front ++ ·) := by
  induction front with
  | nil =>
    obtain ⟨piece, others, hpieces⟩ := List.exists_cons_of_ne_nil (List.splitOn_ne_nil x back)
    rw [List.nil_append, hpieces]
    rfl
  | cons y ys ih =>
    obtain ⟨hy, hys⟩ := List.ne_and_not_mem_of_not_mem_cons h
    have hneg : ¬ (y == x) = true := fun heq => hy (eq_of_beq heq).symm
    rw [List.cons_append, List.splitOn_cons_eq_if_modifyHead, if_neg hneg, ih hys, List.modifyHead_modifyHead]
    rfl

end

namespace Value

/-- A line break cuts a text in two. -/
theorem textLines_append_lineBreak (s t : String) : textLines (s ++ "\n" ++ t) = textLines s ++ textLines t := by
  have hlist : (s ++ "\n" ++ t).toList = s.toList ++ '\n' :: t.toList := by simp
  rw [textLines, hlist, List.splitOn_append_cons_self, List.map_append]
  rfl

theorem textLines_of_lineBreak_not_mem {s : String} (h : '\n' ∉ s.toList) : textLines s = [s] := by
  rw [textLines, List.splitOn_eq_singleton h, List.map_singleton, String.ofList_toList]

/-- A text without line breaks lengthens the first line of the text that follows it. -/
theorem textLines_append_left {s : String} (h : '\n' ∉ s.toList) (t : String) :
    textLines (s ++ t) = (textLines t).modifyHead (s ++ ·) := by
  unfold textLines
  rw [String.toList_append, splitOn_append_of_not_mem h]
  cases t.toList.splitOn '\n' with
  | nil => rfl
  | cons piece others => simp

/-- There is a line more than there are line breaks. -/
theorem length_textLines (s : String) : (textLines s).length = s.toList.count '\n' + 1 := by
  rw [textLines, List.length_map]
  induction s.toList with
  | nil => rfl
  | cons c cs ih =>
    rw [List.splitOn_cons_eq_if_modifyHead, List.count_cons]
    by_cases hc : (c == '\n') = true
    · rw [if_pos hc, if_pos hc, List.length_cons, ih]
    · rw [if_neg hc, if_neg hc, List.length_modifyHead, ih]

/-- The lines of texts that stand one below the other. -/
theorem textLines_join_lines (texts : List String) :
    textLines (String.join (texts.map (· ++ "\n"))) = texts.flatMap textLines ++ [""] := by
  induction texts with
  | nil => rfl
  | cons s rest ih =>
    rw [List.map_cons, String.join_cons, textLines_append_lineBreak, ih, List.flatMap_cons, List.append_assoc]

end Value

open Value (textLines)

/-! ## Texts without line breaks -/

theorem lineBreak_not_mem_append {s t : String} (hs : '\n' ∉ s.toList) (ht : '\n' ∉ t.toList) :
    '\n' ∉ (s ++ t).toList := by
  rw [String.toList_append, List.mem_append, not_or]
  exact ⟨hs, ht⟩

theorem lineBreak_not_mem_digits (n : Nat) : '\n' ∉ Nat.toDigits 10 n := by
  intro h
  exact absurd (isDigit_of_mem_toDigits h) (by decide)

theorem lineBreak_not_mem_natText (n : Nat) : '\n' ∉ (natText n).toList := by
  rw [natText, String.toList_ofList]
  exact lineBreak_not_mem_digits n

theorem lineBreak_not_mem_placeText (index : Nat) : '\n' ∉ (placeText index).toList := by
  simp only [placeText, String.toList_ofList, List.mem_append, List.mem_replicate, not_or]
  refine ⟨fun h => ?_, lineBreak_not_mem_digits _⟩
  exact absurd h.2 (by decide)

/-! ## What a report says of a step -/

namespace TraceEntry

/-- The text that a step has brought about: the summary of its output or the message of its failure. -/
def detail (e : TraceEntry) : String :=
  match e.outcome with
  | .completed summary => summary
  | .failed message => message

/-- What stands in front of this text. -/
def caption (e : TraceEntry) : String :=
  "  [" ++ (if e.completed then "ok" else "!!") ++ "] " ++ placeText e.index ++ ". " ++ e.nodeId ++ " (" ++ e.kind
    ++ ") " ++ natText e.elapsedMs ++ " ms: "

/-- The lines that a report has for a step. -/
def rows (e : TraceEntry) : List String := (textLines e.detail).modifyHead (e.caption ++ ·)

variable {e : TraceEntry}

theorem line_eq (e : TraceEntry) : e.line = e.caption ++ e.detail ++ "\n" := by
  obtain ⟨index, nodeId, kind, outcome, elapsedMs⟩ := e
  cases outcome with
  | completed summary => rfl
  | failed message => rfl

theorem lineBreak_not_mem_caption (hid : '\n' ∉ e.nodeId.toList) (hkind : '\n' ∉ e.kind.toList) :
    '\n' ∉ e.caption.toList := by
  have hmark : '\n' ∉ (if e.completed then "ok" else "!!").toList := by
    split_ifs <;> decide
  have hplace := lineBreak_not_mem_placeText e.index
  have htime := lineBreak_not_mem_natText e.elapsedMs
  unfold caption
  refine lineBreak_not_mem_append ?_ (by decide)
  refine lineBreak_not_mem_append (lineBreak_not_mem_append ?_ (by decide)) htime
  refine lineBreak_not_mem_append (lineBreak_not_mem_append ?_ (by decide)) hkind
  refine lineBreak_not_mem_append (lineBreak_not_mem_append ?_ (by decide)) hid
  refine lineBreak_not_mem_append (lineBreak_not_mem_append ?_ (by decide)) hplace
  exact lineBreak_not_mem_append (by decide) hmark

/-- A step has one line if its text has. -/
theorem rows_of_lineBreak_not_mem (h : '\n' ∉ e.detail.toList) : e.rows = [e.caption ++ e.detail] := by
  rw [rows, Value.textLines_of_lineBreak_not_mem h]
  rfl

theorem length_rows (e : TraceEntry) : e.rows.length = e.detail.toList.count '\n' + 1 := by
  rw [rows, List.length_modifyHead, Value.length_textLines]

end TraceEntry

/-! ## What it says of all steps -/

namespace RunResult

/-- The line for the status. -/
def heading (r : RunResult) : String :=
  "Run " ++ r.status.reportText ++ " (" ++ natText r.log.length ++ " step(s), " ++ natText r.elapsedMs ++ " ms)"

/-- The report has one line for the status and, in their order, one for each step. -/
def LinePerStep (r : RunResult) : Prop :=
  textLines r.logText = r.heading :: r.log.map (fun e => e.caption ++ e.detail) ++ [""]

/-- The result with the times that a host has measured, for the run and for the steps by their places. -/
def timed (r : RunResult) (total : Nat) (each : Nat → Nat) : RunResult :=
  { r with log := r.log.map fun e => { e with elapsedMs := each e.index }, elapsedMs := total }

/-- What the report of a result says of the steps, line by line. -/
structure Reported (r : RunResult) : Prop where
  /-- Its lines are the one for the status and those of the steps. -/
  lines : textLines r.logText = r.heading :: r.log.flatMap TraceEntry.rows ++ [""]
  /-- It has a line break for each step, one for the status, and those of the texts. -/
  breaks : r.logText.toList.count '\n' = 1 + r.log.length + (r.log.map fun e => e.detail.toList.count '\n').sum
  /-- It has one line per step if the texts of the steps keep to one line. -/
  linePerStep_iff : r.LinePerStep ↔
    (∀ id v, r.outputs.get? id = some v → '\n' ∉ v.display.toList.take summaryLength) ∧
      ∀ f, r.failure = some f → '\n' ∉ f.cause.message.toList

variable {r : RunResult}

theorem lineBreak_not_mem_heading (r : RunResult) : '\n' ∉ r.heading.toList := by
  have hstatus : '\n' ∉ r.status.reportText.toList := by
    cases r.status <;> decide
  have hsteps := lineBreak_not_mem_natText r.log.length
  have htime := lineBreak_not_mem_natText r.elapsedMs
  unfold heading
  refine lineBreak_not_mem_append (lineBreak_not_mem_append ?_ htime) (by decide)
  refine lineBreak_not_mem_append (lineBreak_not_mem_append ?_ hsteps) (by decide)
  exact lineBreak_not_mem_append (lineBreak_not_mem_append (by decide) hstatus) (by decide)

theorem logText_eq (r : RunResult) :
    r.logText = String.join ((r.heading :: r.log.map fun e => e.caption ++ e.detail).map (· ++ "\n")) := by
  have hheading : r.statusLine = r.heading ++ "\n" := by
    have hend : " ms)\n" = " ms)" ++ "\n" := by decide
    rw [statusLine, heading, hend, ← String.append_assoc]
  have hlines : r.log.map TraceEntry.line = (r.log.map fun e => e.caption ++ e.detail).map (· ++ "\n") := by
    rw [List.map_map]
    exact List.map_congr_left fun e _ => e.line_eq
  rw [logText, hheading, hlines, List.map_cons, String.join_cons]

section
variable (hcaptions : ∀ e ∈ r.log, '\n' ∉ e.caption.toList)
include hcaptions

theorem textLines_logText : textLines r.logText = r.heading :: r.log.flatMap TraceEntry.rows ++ [""] := by
  have hrows : r.log.flatMap (fun e => textLines (e.caption ++ e.detail)) = r.log.flatMap TraceEntry.rows := by
    refine List.flatMap_congr fun e he => ?_
    exact Value.textLines_append_left (hcaptions e he) e.detail
  rw [logText_eq, Value.textLines_join_lines, List.flatMap_cons,
    Value.textLines_of_lineBreak_not_mem r.lineBreak_not_mem_heading, List.flatMap_map, hrows]
  rfl

theorem count_logText : r.logText.toList.count '\n' =
    1 + r.log.length + (r.log.map fun e => e.detail.toList.count '\n').sum := by
  have hrows (log : List TraceEntry) : (log.flatMap TraceEntry.rows).length =
      log.length + (log.map fun e => e.detail.toList.count '\n').sum := by
    induction log with
    | nil => rfl
    | cons e log ih =>
      rw [List.flatMap_cons, List.length_append, TraceEntry.length_rows, ih, List.map_cons, List.sum_cons,
        List.length_cons]
      omega
  have hlength := congrArg List.length (textLines_logText hcaptions)
  rw [Value.length_textLines, List.cons_append, List.length_cons, List.length_append, hrows] at hlength
  simp only [List.length_singleton] at hlength
  omega

/-- One line per step is what the texts of the steps decide. -/
theorem linePerStep_iff_details : r.LinePerStep ↔ ∀ e ∈ r.log, '\n' ∉ e.detail.toList := by
  constructor
  · intro h
    -- With one line per step, the count of the line breaks leaves none to the texts.
    have hlength := congrArg List.length h
    rw [Value.length_textLines, count_logText hcaptions] at hlength
    simp only [List.cons_append, List.length_cons, List.length_append, List.length_map, List.length_nil] at hlength
    have hsum : (r.log.map fun e => e.detail.toList.count '\n').sum = 0 := by omega
    intro e he
    rw [List.sum_eq_zero_iff_forall_eq_nat, List.forall_mem_map] at hsum
    exact List.count_eq_zero.1 (hsum e he)
  · intro h
    have hrows : r.log.flatMap TraceEntry.rows = r.log.map fun e => e.caption ++ e.detail := by
      rw [List.map_eq_flatMap]
      exact List.flatMap_congr fun e he => TraceEntry.rows_of_lineBreak_not_mem (h e he)
    rw [LinePerStep, textLines_logText hcaptions, hrows]

end

end RunResult

/-! ## The texts of the steps in a run -/

theorem lineBreak_mem_summary_iff {v : Value} :
    '\n' ∈ (summary v).toList ↔ '\n' ∈ v.display.toList.take summaryLength := by
  unfold summary
  by_cases hlength : v.display.toList.length ≤ summaryLength
  · rw [if_pos hlength, String.toList_ofList, List.take_of_length_le hlength]
  · rw [if_neg hlength, String.toList_ofList]
    simp

namespace Plan

variable {p : Plan}

theorem details_completedLines (index : Nat) (done : List (Step × Value)) :
    (completedLines index done).map TraceEntry.detail = done.map fun (_, v) => summary v := by
  conv => rhs; rw [← List.zipIdx_map_fst index done, List.map_map]
  rw [completedLines, List.map_map]
  rfl

/-- Every property of texts holds of those of the steps if it holds of the summaries of all outputs and of the message
of the failure. -/
theorem Ends.forall_detail_iff (hnodup : p.order.Nodup) {r : RunResult} (h : p.Ends r) {P : String → Prop} :
    (∀ e ∈ r.log, P e.detail) ↔
      (∀ id v, r.outputs.get? id = some v → P (summary v)) ∧ ∀ f, r.failure = some f → P f.cause.message := by
  -- Both ends of a run have the outputs and the lines of the completed steps in common.
  have houtputs {done : List (Step × Value)} {back : List Step} (hsteps : p.steps = done.map (·.1) ++ back) :
      (∀ e ∈ completedLines 0 done, P e.detail) ↔ ∀ id v, (outputsOf done).get? id = some v → P (summary v) := by
    have hdone : (done.map (·.1.nodeId)).Nodup := by
      rw [order, hsteps, List.map_append, List.map_map] at hnodup
      exact (List.nodup_append.1 hnodup).1
    rw [← List.forall_mem_map, details_completedLines, List.forall_mem_map]
    constructor
    · intro hall id v hv
      obtain ⟨⟨s, v'⟩, hs, heq⟩ := List.mem_map.1 (Dict.mem_of_get?_ofList hv)
      obtain ⟨-, rfl⟩ := Prod.mk.inj heq
      exact hall (s, v') hs
    · rintro hall ⟨s, v⟩ hs
      exact hall s.nodeId v (get?_outputsOf hdone hs)
  cases h with
  | completed hsteps =>
    rw [houtputs (by rw [hsteps, List.append_nil])]
    simp
  | stopped hsteps =>
    rw [List.forall_mem_append, houtputs hsteps, List.forall_mem_singleton]
    simp [failedLine, TraceEntry.detail]

/-- The report of a run of a plan whose steps have names without line breaks. -/
theorem Ends.reported (hnodup : p.order.Nodup)
    (hnames : ∀ s ∈ p.steps, '\n' ∉ s.nodeId.toList ∧ '\n' ∉ s.kind.toList) {r : RunResult} (h : p.Ends r)
    (total : Nat) (each : Nat → Nat) : (r.timed total each).Reported := by
  have hcaptions : ∀ e ∈ (r.timed total each).log, '\n' ∉ e.caption.toList := by
    rw [RunResult.timed, List.forall_mem_map]
    intro e he
    obtain ⟨i, hi⟩ := List.mem_iff_getElem?.1 he
    obtain ⟨s, hs, -, hid, hkind⟩ := (h.coherent hnodup).line i e hi
    obtain ⟨hsid, hskind⟩ := hnames s (List.mem_of_getElem? hs)
    exact TraceEntry.lineBreak_not_mem_caption (hid ▸ hsid) (hkind ▸ hskind)
  refine ⟨RunResult.textLines_logText hcaptions, RunResult.count_logText hcaptions, ?_⟩
  rw [RunResult.linePerStep_iff_details hcaptions, RunResult.timed, List.forall_mem_map]
  refine (h.forall_detail_iff hnodup (P := fun text => '\n' ∉ text.toList)).trans ?_
  simp only [lineBreak_mem_summary_iff]

end Plan

namespace Registry

/-- **The lines of a report.** Where no name in a workflow has a line break, the lines of every report of a run are
known, and with them when there is one for each step. That is so for all inputs, requests to cancel and times, and
whatever answers the steps get. -/
theorem run_reported {r : Registry} {w : Workflow} {p : Plan} (hp : r.compile w = .ok p)
    (hnames : ∀ n ∈ w.nodes, '\n' ∉ n.id.toList ∧ '\n' ∉ n.kind.toList) (inputs : Dict Value) (c : Cancellation)
    (total : Nat) (each : Nat → Nat) : ((p.run inputs c).timed total each).Reported ∧
      ∀ answer, ((p.answered answer inputs c).timed total each).Reported := by
  have hsteps : ∀ s ∈ p.steps, '\n' ∉ s.nodeId.toList ∧ '\n' ∉ s.kind.toList := by
    intro s hs
    obtain ⟨n, hn, hdescribes, -⟩ := (faithful_of_compile hp).steps s hs
    rw [hdescribes.nodeId, hdescribes.kind]
    exact hnames n hn
  have hanswered (answer : Nat → Step → List Value → Reply) :
      ((p.answered answer inputs c).timed total each).Reported :=
    (p.ends_answered answer inputs c).reported (order_nodup_of_compile hp) hsteps total each
  refine ⟨?_, hanswered⟩
  rw [p.run_eq_answered]
  exact hanswered _

/-- In the confluence the merged text takes two lines, both where it is put together and where it is collected. -/
theorem run_reported_confluence : ∃ p, builtin.compile .confluence = .ok p ∧
    (∀ n ∈ Workflow.confluence.nodes, '\n' ∉ n.id.toList ∧ '\n' ∉ n.kind.toList) ∧
    textLines ((p.run (.ofList [("a", .text "A")]) .ignored).timed 10 (· + 1)).logText =
      ["Run succeeded (4 step(s), 10 ms)", "  [ok]   1. b (constant) 1 ms: B", "  [ok]   2. a (input) 2 ms: A",
        "  [ok]   3. both (merge) 3 ms: B", "A", "  [ok]   4. out (output) 4 ms: B", "A", ""] ∧
    ((p.run (.ofList [("a", .text "A")]) .ignored).timed 10 (· + 1)).Reported ∧
    ∀ answer, ((p.answered answer (.ofList [("a", .text "A")]) .ignored).timed 10 (· + 1)).Reported := by
  have hrun : (builtin.compile .confluence).map
      (fun p =>
        let r := p.run (.ofList [("a", .text "A")]) .ignored
        (r.log, r.status)) =
        .ok ([⟨0, "b", "constant", .completed "B", 0⟩, ⟨1, "a", "input", .completed "A", 0⟩,
          ⟨2, "both", "merge", .completed "B\nA", 0⟩, ⟨3, "out", "output", .completed "B\nA", 0⟩], .succeeded) := by cbv
  have hnames : ∀ n ∈ Workflow.confluence.nodes, '\n' ∉ n.id.toList ∧ '\n' ∉ n.kind.toList := by
    decide +kernel
  obtain ⟨p, hp, hresult⟩ := exists_plan_of_map_eq_ok hrun
  obtain ⟨hlog, hstatus⟩ := Prod.mk.inj hresult
  obtain ⟨hreported, hanswered⟩ := run_reported hp hnames (.ofList [("a", .text "A")]) .ignored 10 (· + 1)
  refine ⟨p, hp, hnames, ?_, hreported, hanswered⟩
  rw [hreported.lines, RunResult.heading]
  simp only [RunResult.timed, hlog, hstatus]
  decide +kernel

end Registry

/-! ## A step that was never attempted -/

/-- A single step, whose output reads like the lines of two. -/
def Workflow.forged : Workflow :=
  .ofParts "forged"
    [⟨"a", .source, "constant", .ofList [("value", .text "done\n  [ok]   2. b (trim) 0 ms: done")]⟩] []

/-- **A text of several lines is taken for more steps.** Of two steps in a report one need not exist. -/
theorem Registry.run_not_linePerStep_forged : ∃ p, builtin.compile .forged = .ok p ∧
    (∀ n ∈ Workflow.forged.nodes, '\n' ∉ n.id.toList ∧ '\n' ∉ n.kind.toList) ∧
    (p.run .empty .ignored).log.length = 1 ∧
    textLines (p.run .empty .ignored).logText =
      ["Run succeeded (1 step(s), 0 ms)", "  [ok]   1. a (constant) 0 ms: done",
        "  [ok]   2. b (trim) 0 ms: done", ""] ∧
    ¬ (p.run .empty .ignored).LinePerStep := by
  have hrun : (builtin.compile .forged).map
      (fun p =>
        let r := p.run .empty .ignored
        (r.log, r.status, r.elapsedMs)) =
        .ok ([⟨0, "a", "constant", .completed "done\n  [ok]   2. b (trim) 0 ms: done", 0⟩], .succeeded, 0) := by cbv
  obtain ⟨p, hp, hresult⟩ := exists_plan_of_map_eq_ok hrun
  obtain ⟨hlog, hend⟩ := Prod.mk.inj hresult
  obtain ⟨hstatus, helapsed⟩ := Prod.mk.inj hend
  have hsteps : (p.run .empty .ignored).log.length = 1 := by rw [hlog]; rfl
  have hlines : textLines (p.run .empty .ignored).logText =
      ["Run succeeded (1 step(s), 0 ms)", "  [ok]   1. a (constant) 0 ms: done",
        "  [ok]   2. b (trim) 0 ms: done", ""] := by
    rw [RunResult.logText, RunResult.statusLine, hlog, hstatus, helapsed]
    decide +kernel
  refine ⟨p, hp, by decide +kernel, hsteps, hlines, fun h => ?_⟩
  -- The report has two lines below the status, and the log has one entry.
  have hlength := congrArg List.length h
  rw [hlines] at hlength
  simp [hsteps] at hlength

end Dataflow
