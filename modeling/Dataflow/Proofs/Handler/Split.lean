import Dataflow.Proofs.Handler.Items
/-!
Texts split into items.

What a split keeps of a text goes by its mode. Chunks are consecutive and lines are cut at a single character, so from
both the text can be put together again, and the handler that reduces items does it when it is told what stood between
them: nothing, or a line break. Words lose the blanks around them and nothing else.

The size of chunks is read twice, when the settings are accepted and when the text is split. The second reading never
fails: it takes a hundred for a missing size and raises a size of nothing to one. That it makes up no other size for a
node whose settings were accepted is a fact about both readings (`chunkSize_of_validate`).
-/

set_option autoImplicit false

namespace Dataflow

/-! ## Lists cut at elements -/

section
variable {α : Type} {p : α → Bool}

/-- The pieces hold what is left of a list without the elements that it is cut at. -/
theorem flatten_splitOnP (xs : List α) : (xs.splitOnP p).flatten = xs.filter fun x => !p x := by
  induction xs with
  | nil => rfl
  | cons x xs ih =>
    obtain ⟨piece, others, hpieces⟩ := List.exists_cons_of_ne_nil (List.splitOnP_ne_nil p xs)
    rw [List.splitOnP_cons_eq_if_modifyHead, List.filter_cons]
    by_cases hx : p x = true
    · have hdropped : ¬ (!p x) = true := by rw [hx]; decide
      rw [if_pos hx, if_neg hdropped, List.flatten_cons, List.nil_append, ih]
    · have hkept : (!p x) = true := by rw [Bool.not_eq_true', Bool.eq_false_iff]; exact hx
      rw [if_neg hx, if_pos hkept, ← ih, hpieces, List.modifyHead_cons, List.flatten_cons, List.flatten_cons,
        List.cons_append]

theorem not_of_mem_splitOnP {xs piece : List α} (h : piece ∈ xs.splitOnP p) : ∀ x ∈ piece, p x = false := by
  intro x hx
  have hkept : x ∈ xs.filter fun x => !p x := by
    rw [← flatten_splitOnP]
    exact List.mem_flatten_of_mem h hx
  have hnot := (List.mem_filter.1 hkept).2
  rwa [Bool.not_eq_true'] at hnot

end

/-- No line holds a line break. -/
theorem lineBreak_not_mem_of_mem_textLines {s line : String} (h : line ∈ Value.textLines s) : '\n' ∉ line.toList := by
  rw [Value.textLines] at h
  obtain ⟨cs, hcs, rfl⟩ := List.mem_map.1 h
  rw [String.toList_ofList]
  intro hmem
  rw [List.splitOn_eq_splitOnP] at hcs
  have hnot := not_of_mem_splitOnP hcs '\n' hmem
  exact absurd hnot (by decide)

/-- The words of a text are the text without its blanks. -/
theorem flatten_words (cs : List Char) : (Text.words cs).flatten = cs.filter fun c => !Text.isBlank c := by
  rw [Text.words, List.flatten_filter_not_isEmpty, flatten_splitOnP]

theorem of_mem_words {cs word : List Char} (h : word ∈ Text.words cs) :
    word ≠ [] ∧ ∀ c ∈ word, Text.isBlank c = false := by
  obtain ⟨hpiece, hlong⟩ := List.mem_filter.1 h
  refine ⟨?_, not_of_mem_splitOnP hpiece⟩
  rintro rfl
  cases hlong

/-! ## Pieces put together -/

theorem join_map_ofList (parts : List (List Char)) :
    String.join (parts.map String.ofList) = String.ofList parts.flatten := by
  apply String.toList_injective
  rw [String.toList_join, String.toList_ofList, List.flatMap_def, map_toList_map_ofList]

theorem intercalate_empty (pieces : List String) : "".intercalate pieces = String.join pieces := by
  induction pieces with
  | nil => rfl
  | cons piece pieces ih =>
    cases pieces with
    | nil => rw [String.intercalate_singleton, String.join_cons, String.join_nil, String.append_empty]
    | cons next others =>
      have hjoin : String.join (piece :: next :: others) = piece ++ String.join (next :: others) := String.join_cons
      rw [String.intercalate_cons_cons, ih, String.append_empty, hjoin]

/-! ## Chunks -/

/-- Pieces of one length. The last may be shorter, but is not empty. -/
structure Chunked (size : Nat) (pieces : List String) : Prop where
  full : ∀ piece ∈ pieces.dropLast, piece.length = size
  last : ∀ piece ∈ pieces.getLast?, 1 ≤ piece.length ∧ piece.length ≤ size

/-- Chunks are consecutive. -/
theorem flatten_chunks (size : Nat) (cs : List Char) : (chunks size cs).flatten = cs := by
  fun_induction chunks size cs with
  | case1 => rfl
  | case2 c rest ih => rw [List.flatten_cons, ih, List.cons_append, List.take_append_drop]

/-- A chunk that is followed by another one was not cut short by the end of the text. -/
theorem chunked_chunks (size : Nat) (cs : List Char) : Chunked (size + 1) ((chunks size cs).map String.ofList) := by
  fun_induction chunks size cs with
  | case1 =>
    refine ⟨?_, ?_⟩
    · intro piece hpiece
      cases hpiece
    · intro piece hpiece
      cases hpiece
  | case2 c rest ih =>
    have hlength : (String.ofList (c :: rest.take size)).length = min size rest.length + 1 := by
      rw [String.length_ofList, List.length_cons, List.length_take]
    cases hmore : chunks size (rest.drop size) with
    | nil =>
      refine ⟨?_, ?_⟩
      · intro piece hpiece
        cases hpiece
      · intro piece hpiece
        obtain rfl : String.ofList (c :: rest.take size) = piece := Option.some.inj hpiece
        omega
    | cons next others =>
      -- More text was left after this chunk, so the chunk is full.
      have hlong : size < rest.length := by
        by_contra hshort
        rw [List.drop_eq_nil_of_le (by omega), chunks] at hmore
        cases hmore
      rw [hmore, List.map_cons] at ih
      rw [List.map_cons, List.map_cons]
      refine ⟨?_, ?_⟩
      · intro piece hpiece
        rw [List.dropLast_cons_of_ne_nil (List.cons_ne_nil _ _), List.mem_cons] at hpiece
        rcases hpiece with rfl | hpiece
        · omega
        · exact ih.full piece hpiece
      · intro piece hpiece
        rw [List.getLast?_cons_cons] at hpiece
        exact ih.last piece hpiece

/-! ## The handler -/

section
variable {config : Config}

theorem splitText_invoke {name : String} {mode : SplitMode} (hname : config.textD "mode" "whole" = name)
    (hmode : SplitMode.names.lookup name = some mode) (v : Value) : (splitText.invoke [v] config).result =
      .ok (.list (((mode.apply config v.toText.toList).map String.ofList).map .text)) := by
  rw [List.map_map, splitText]
  simp only [Config.choose_of_lookup hname hmode]
  rfl

/-- **Settings that are accepted leave the size of chunks out or give it.** -/
theorem chunkSize_of_validate (hvalid : splitText.validate config = .ok ())
    (hmode : config.text? "mode" = some "chunk") :
    config.get? "chunk_size" = none ∧ chunkSize config = 100 ∨
      config.count? "chunk_size" = some (chunkSize config) := by
  have hcheck : checkChunkSize .chunk config = .ok () := by
    have hboth : (config.choose "mode" "whole" SplitMode.names >>= fun mode => checkChunkSize mode config) = .ok () :=
      hvalid
    rw [Config.choose_of_lookup (Config.textD_of_text? hmode) rfl] at hboth
    exact hboth
  -- A size that is not a positive count was refused, so the second reading neither makes one up nor raises it.
  unfold checkChunkSize at hcheck
  by_cases hset : config.contains "chunk_size" = true
  · right
    rw [if_pos ⟨rfl, hset⟩] at hcheck
    cases hcount : config.count? "chunk_size" with
    | none => simp [hcount] at hcheck
    | some n =>
      cases n with
      | zero => simp [hcount] at hcheck
      | succ n =>
        rw [chunkSize, hcount]
        exact congrArg some (Nat.max_eq_left (Nat.succ_le_succ (Nat.zero_le n))).symm
  · left
    have hget : config.get? "chunk_size" = none := by
      simpa [Dict.contains] using hset
    refine ⟨hget, ?_⟩
    rw [chunkSize, Config.count?, Config.number?, hget]
    rfl

/-- To reduce the items of a split by joining is to join its pieces. -/
theorem aggregate_invoke_concat_pieces (hop : config.text? "op" = some "concat") (pieces : List String) :
    (aggregate.invoke [.list (pieces.map .text)] config).result =
      .ok (.text ((config.textD "separator" "\n").intercalate pieces)) := by
  rw [aggregate_invoke_concat hop, Value.items, joinTexts, Value.map_toText_map_text]

/-- **A split loses no text.** -/
theorem splitText_keeps_text (hvalid : splitText.validate config = .ok ()) (v : Value) :
    (config.text? "mode" = some "chunk" → ∃ size pieces,
      (splitText.invoke [v] config).result = .ok (.list (pieces.map .text)) ∧
      (config.get? "chunk_size" = none ∧ size = 100 ∨ config.count? "chunk_size" = some size) ∧ 1 ≤ size ∧
      String.join pieces = v.toText ∧ Chunked size pieces ∧
      ∀ reduction : Config, reduction.text? "op" = some "concat" → reduction.text? "separator" = some "" →
        (aggregate.invoke [.list (pieces.map .text)] reduction).result = .ok (.text v.toText)) ∧
    (config.text? "mode" = some "lines" → ∃ pieces,
      (splitText.invoke [v] config).result = .ok (.list (pieces.map .text)) ∧
      "\n".intercalate pieces = v.toText ∧ (∀ piece ∈ pieces, '\n' ∉ piece.toList) ∧
      ∀ reduction : Config, reduction.text? "op" = some "concat" → reduction.textD "separator" "\n" = "\n" →
        (aggregate.invoke [.list (pieces.map .text)] reduction).result = .ok (.text v.toText)) ∧
    (config.text? "mode" = some "whitespace" → ∃ pieces,
      (splitText.invoke [v] config).result = .ok (.list (pieces.map .text)) ∧
      (∀ piece ∈ pieces, piece ≠ "" ∧ ∀ c ∈ piece.toList, Text.isBlank c = false) ∧
      (String.join pieces).toList = v.toText.toList.filter fun c => !Text.isBlank c) ∧
    (config.textD "mode" "whole" = "whole" →
      (splitText.invoke [v] config).result = .ok (.list [.text v.toText])) := by
  refine ⟨?chunk, ?lines, ?whitespace, ?whole⟩
  case chunk =>
    intro hmode
    have hpos : 1 ≤ chunkSize config := Nat.le_max_right _ 1
    have hjoin : String.join ((SplitMode.chunk.apply config v.toText.toList).map String.ofList) = v.toText := by
      rw [join_map_ofList, SplitMode.apply, flatten_chunks, String.ofList_toList]
    have hchunked := chunked_chunks (chunkSize config - 1) v.toText.toList
    rw [Nat.sub_add_cancel hpos] at hchunked
    refine ⟨chunkSize config, _, splitText_invoke (Config.textD_of_text? hmode) rfl v,
      chunkSize_of_validate hvalid hmode, hpos, hjoin, hchunked, ?_⟩
    intro reduction hop hseparator
    rw [aggregate_invoke_concat_pieces hop, Config.textD_of_text? hseparator, intercalate_empty, hjoin]
  case lines =>
    intro hmode
    refine ⟨Value.textLines v.toText, splitText_invoke (Config.textD_of_text? hmode) rfl v,
      Value.intercalate_textLines v.toText, fun _ => lineBreak_not_mem_of_mem_textLines, ?_⟩
    intro reduction hop hseparator
    rw [aggregate_invoke_concat_pieces hop, hseparator, Value.intercalate_textLines]
  case whitespace =>
    intro hmode
    refine ⟨(Text.words v.toText.toList).map String.ofList, splitText_invoke (Config.textD_of_text? hmode) rfl v,
      ?_, ?_⟩
    · intro piece hpiece
      obtain ⟨word, hword, rfl⟩ := List.mem_map.1 hpiece
      obtain ⟨hne, hblank⟩ := of_mem_words hword
      rw [String.toList_ofList]
      refine ⟨?_, hblank⟩
      intro hempty
      exact hne (String.ofList_eq_empty_iff.1 hempty)
    · rw [join_map_ofList, String.toList_ofList, flatten_words]
  case whole =>
    intro hmode
    rw [splitText_invoke hmode rfl, SplitMode.apply, List.map_singleton, List.map_singleton, String.ofList_toList]

end

/-- The settings of a split into pairs of characters. -/
def pairs : Config := .ofList [("mode", .text "chunk"), ("chunk_size", .number (.ofNat 2))]

/-- The settings of a split into lines. -/
def byLines : Config := .ofList [("mode", .text "lines")]

/-- The settings of a split into words. -/
def byWords : Config := .ofList [("mode", .text "whitespace")]

/-- The settings of a reduction that joins its items with nothing between them. -/
def joiningTight : Config := .ofList [("op", .text "concat"), ("separator", .text "")]

/-- Five characters are no pairs, and the empty line at the end of a text is a line. -/
theorem splitText_keeps_text_odd :
    (splitText.validate pairs = .ok () ∧ pairs.text? "mode" = some "chunk" ∧ ∃ pieces : List String,
      (splitText.invoke [.text "abcde"] pairs).result = .ok (.list (pieces.map .text)) ∧
      (aggregate.invoke [.list (pieces.map .text)] joiningTight).result = .ok (.text "abcde")) ∧
    (splitText.validate byLines = .ok () ∧ byLines.text? "mode" = some "lines" ∧ ∃ pieces : List String,
      (splitText.invoke [.text "a\n\nb\n"] byLines).result = .ok (.list (pieces.map .text)) ∧
      (aggregate.invoke [.list (pieces.map .text)] joining).result = .ok (.text "a\n\nb\n")) ∧
    (splitText.validate byWords = .ok () ∧ byWords.text? "mode" = some "whitespace" ∧ ∃ pieces : List String,
      (splitText.invoke [.text " a  bc\n"] byWords).result = .ok (.list (pieces.map .text)) ∧
      (String.join pieces).toList = ['a', 'b', 'c']) ∧
    (splitText.validate noSettings = .ok () ∧ noSettings.textD "mode" "whole" = "whole" ∧
      (splitText.invoke [.text "a b"] noSettings).result = .ok (.list [.text "a b"])) := by
  have hpairs : splitText.validate pairs = .ok () := by decide +kernel
  have hlines : splitText.validate byLines = .ok () := rfl
  have hwords : splitText.validate byWords = .ok () := rfl
  have hwhole : splitText.validate noSettings = .ok () := rfl
  refine ⟨⟨hpairs, rfl, ?_⟩, ⟨hlines, rfl, ?_⟩, ⟨hwords, rfl, ?_⟩, hwhole, rfl, ?_⟩
  · obtain ⟨_, pieces, hresult, -, -, -, -, hback⟩ := (splitText_keeps_text hpairs (.text "abcde")).1 rfl
    exact ⟨pieces, hresult, hback joiningTight rfl rfl⟩
  · obtain ⟨pieces, hresult, -, -, hback⟩ := (splitText_keeps_text hlines (.text "a\n\nb\n")).2.1 rfl
    exact ⟨pieces, hresult, hback joining rfl rfl⟩
  · obtain ⟨pieces, hresult, -, hjoin⟩ := (splitText_keeps_text hwords (.text " a  bc\n")).2.2.1 rfl
    exact ⟨pieces, hresult, hjoin⟩
  · exact (splitText_keeps_text hwhole (.text "a b")).2.2.2 rfl

end Dataflow
