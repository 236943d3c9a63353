import Dataflow.Handler.Endpoint
import Dataflow.Proofs.Handler.Condition
import Dataflow.Proofs.Handler.Sort
/-!
Values seen as items.

A handler that works on items takes every value for a list: a text is cut into lines, null is the list of nothing, and
any other value is alone in its list. A handler that works on text joins a list line by line. The two views are made
in different places, and they fit: the list of the items has the text of the value (`Value.toText_items`). For a text
this is cutting and joining at line breaks; for any other value nothing is joined, or one thing only.

So a handler that passes the items on, or joins them, leaves the text as it was. The main statement says so of every
handler that can be set to do nothing else, with the value as its only input.
-/

set_option autoImplicit false

namespace Dataflow

/-! ## The text of items -/

theorem map_toList_map_ofList (parts : List (List Char)) : (parts.map String.ofList).map String.toList = parts := by
  rw [List.map_map]
  have hback : String.toList ∘ String.ofList = id := funext fun cs => String.toList_ofList
  rw [hback, List.map_id]

/-- Texts are joined as their characters are. -/
theorem intercalate_map_ofList (separator : String) (parts : List (List Char)) :
    separator.intercalate (parts.map String.ofList) = String.ofList (separator.toList.intercalate parts) := by
  apply String.toList_injective
  rw [String.toList_intercalate, String.toList_ofList, map_toList_map_ofList]

namespace Value

theorem textItems_eq_map (vs : List Value) : textItems vs = vs.map toText := by
  induction vs with
  | nil => rfl
  | cons v vs ih => rw [textItems, ih, List.map_cons]

/-- The items of a list are joined by line breaks. -/
theorem toText_list (vs : List Value) : toText (.list vs) = "\n".intercalate (vs.map toText) := by
  rw [toText, textItems_eq_map]

theorem toText_singleton (v : Value) : toText (.list [v]) = v.toText := by
  rw [toText_list, List.map_cons, List.map_nil, String.intercalate_singleton]

theorem map_toText_map_text (parts : List String) : (parts.map text).map toText = parts := by
  rw [List.map_map]
  have hback : toText ∘ text = id := funext fun part => by rw [Function.comp_apply, toText, id]
  rw [hback, List.map_id]

/-- Cut into lines and joined, a text is as it was. -/
theorem intercalate_textLines (s : String) : "\n".intercalate (textLines s) = s := by
  have hjoined : "\n".toList.intercalate (s.toList.splitOn '\n') = s.toList := List.intercalate_splitOn '\n'
  rw [textLines, intercalate_map_ofList, hjoined, String.ofList_toList]

/-- **The items of a value have its text.** -/
theorem toText_items (v : Value) : toText (.list v.items) = v.toText := by
  cases v with
  | null => rfl
  | list vs => rfl
  | text s => rw [items, toText_list, map_toText_map_text, intercalate_textLines, toText]
  | bool b => exact toText_singleton (.bool b)
  | number x => exact toText_singleton (.number x)
  | map entries => exact toText_singleton (.map entries)

end Value

/-! ## Handlers of items -/

section
variable {config : Config}

namespace Condition

/-- A filter keeps the items of which the condition in its settings holds. -/
theorem filterItems_invoke {condition : Condition} (h : ofConfig config = .ok condition) (v : Value) :
    (filterItems.invoke [v] config).result = .ok (.list (v.items.filter condition.holds)) := by
  simp only [filterItems, Handler.ofSettings, h]
  rfl

/-- Without a condition it keeps them all. -/
theorem filterItems_invoke_unconditional (h : config.get? "condition" = none) (v : Value) :
    (filterItems.invoke [v] config).result = .ok (.list v.items) := by
  -- A condition that is missing is read as a test for the empty text, which every text contains.
  have hread : ofConfig config = .ok (.text .contains "" ((config.bool? "case_sensitive").getD false)) := by
    rw [ofConfig, h]
  have hall : ∀ item ∈ v.items, holds item (.text .contains "" ((config.bool? "case_sensitive").getD false)) = true :=
    fun item _ => (says_contains_empty _ item).2 trivial
  rw [filterItems_invoke hread, List.filter_eq_self.2 hall]

end Condition

/-- With one input, a reduction works on the items of it. -/
theorem aggregate_invoke_singleton {name : String} {op : AggregateOp} (hname : config.textD "op" "list" = name)
    (hop : AggregateOp.names.lookup name = some op) (v : Value) :
    (aggregate.invoke [v] config).result = .ok (op.apply config v.items) := by
  rw [aggregate_invoke hname hop, List.flatMap_singleton]

theorem aggregate_invoke_concat (hop : config.text? "op" = some "concat") (v : Value) :
    (aggregate.invoke [v] config).result = .ok (joinTexts config v.items) :=
  aggregate_invoke_singleton (Config.textD_of_text? hop) rfl v

/-! ## Handlers of text -/

/-- Values joined by line breaks have the text of their list. -/
theorem joinTexts_lines (hseparator : config.textD "separator" "\n" = "\n") (vs : List Value) :
    joinTexts config vs = .text (Value.toText (.list vs)) := by
  rw [joinTexts, hseparator, Value.toText_list]

theorem merge_invoke_concat (hstrategy : config.textD "strategy" "concat" = "concat") (inbound : List Value) :
    (merge.invoke inbound config).result = .ok (joinTexts config inbound) := by
  rw [merge, Handler.invoke_ofSettings (Config.choose_of_lookup hstrategy rfl)]

theorem transform_invoke_text (hop : config.text? "op" = some "text") (v : Value) :
    (transform.invoke [v] config).result = .ok (.text v.toText) := by
  rw [transform, Handler.invoke_ofSettings (Config.choose_of_lookup (Config.textD_of_text? hop) rfl)]
  rfl

end

/-- **A value seen as items keeps its text.** So do the lists that the handlers of items make of it when nothing is
left out or moved, and the texts of the handlers that join it at line breaks or render it. -/
theorem Value.items_keep_text (v : Value) :
    toText (.list v.items) = v.toText ∧
    (∀ config : Config, config.get? "condition" = none → ∃ items,
      (filterItems.invoke [v] config).result = .ok (.list items) ∧ toText (.list items) = v.toText) ∧
    (∀ config : Config, sortItems.validate config = .ok () → config.textD "by" "none" = "none" → ∃ items,
      (sortItems.invoke [v] config).result = .ok (.list items) ∧ toText (.list items) = v.toText) ∧
    (∀ config : Config, config.textD "op" "list" = "list" → ∃ items,
      (aggregate.invoke [v] config).result = .ok (.list items) ∧ toText (.list items) = v.toText) ∧
    (∀ config : Config, config.text? "op" = some "concat" → config.textD "separator" "\n" = "\n" →
      (aggregate.invoke [v] config).result = .ok (.text v.toText)) ∧
    (∀ config : Config, config.textD "strategy" "concat" = "concat" → config.textD "separator" "\n" = "\n" →
      (merge.invoke [v] config).result = .ok (.text v.toText)) ∧
    (∀ config : Config, config.text? "op" = some "text" →
      (transform.invoke [v] config).result = .ok (.text v.toText)) ∧
    (∀ config : Config, config.text? "format" = some "text" →
      (collectOutput.invoke [v] config).result = .ok (.text v.toText)) := by
  have hkept := toText_items v
  refine ⟨hkept, ?filter, ?sort, ?list, ?concat, ?merge, ?transform, ?collect⟩
  case filter =>
    intro config hcondition
    exact ⟨v.items, Condition.filterItems_invoke_unconditional hcondition v, hkept⟩
  case sort =>
    intro config hvalid hby
    exact ⟨v.items, sortItems_invoke_unsorted hvalid hby v, hkept⟩
  case list =>
    intro config hop
    exact ⟨v.items, aggregate_invoke_singleton hop rfl v, hkept⟩
  case concat =>
    intro config hop hseparator
    rw [aggregate_invoke_concat hop, joinTexts_lines hseparator, hkept]
  case merge =>
    intro config hstrategy hseparator
    rw [merge_invoke_concat hstrategy, joinTexts_lines hseparator, toText_singleton]
  case transform =>
    intro config hop
    exact transform_invoke_text hop v
  case collect =>
    intro config hformat
    exact collectOutput_invoke (Config.textD_of_text? hformat) rfl [v]

/-- The settings of a node that has none. -/
def noSettings : Config := .empty

/-- The settings of a reduction that joins its items. -/
def joining : Config := .ofList [("op", .text "concat")]

/-- The settings of a transformation or a sink that renders what it gets as text. -/
def asText : Config := .ofList [("format", .text "text"), ("op", .text "text")]

/-- An empty line is kept, in the middle and at the end. -/
theorem Value.items_keep_text_emptyLines :
    toText (.list (items (.text "a\n\nb\n"))) = "a\n\nb\n" ∧
    (noSettings.get? "condition" = none ∧ ∃ items,
      (filterItems.invoke [.text "a\n\nb\n"] noSettings).result = .ok (.list items) ∧
        toText (.list items) = "a\n\nb\n") ∧
    (sortItems.validate noSettings = .ok () ∧ noSettings.textD "by" "none" = "none" ∧ ∃ items,
      (sortItems.invoke [.text "a\n\nb\n"] noSettings).result = .ok (.list items) ∧
        toText (.list items) = "a\n\nb\n") ∧
    (noSettings.textD "op" "list" = "list" ∧ ∃ items,
      (aggregate.invoke [.text "a\n\nb\n"] noSettings).result = .ok (.list items) ∧
        toText (.list items) = "a\n\nb\n") ∧
    (joining.text? "op" = some "concat" ∧ joining.textD "separator" "\n" = "\n" ∧
      (aggregate.invoke [.text "a\n\nb\n"] joining).result = .ok (.text "a\n\nb\n")) ∧
    (noSettings.textD "strategy" "concat" = "concat" ∧ noSettings.textD "separator" "\n" = "\n" ∧
      (merge.invoke [.text "a\n\nb\n"] noSettings).result = .ok (.text "a\n\nb\n")) ∧
    (asText.text? "op" = some "text" ∧
      (transform.invoke [.text "a\n\nb\n"] asText).result = .ok (.text "a\n\nb\n")) ∧
    (asText.text? "format" = some "text" ∧
      (collectOutput.invoke [.text "a\n\nb\n"] asText).result = .ok (.text "a\n\nb\n")) := by
  obtain ⟨hitems, hfilter, hsort, hlist, hconcat, hmerge, htransform, hcollect⟩ :=
    items_keep_text (.text "a\n\nb\n")
  exact ⟨hitems, ⟨rfl, hfilter noSettings rfl⟩, ⟨rfl, rfl, hsort noSettings rfl rfl⟩, ⟨rfl, hlist noSettings rfl⟩,
    ⟨rfl, rfl, hconcat joining rfl rfl⟩, ⟨rfl, rfl, hmerge noSettings rfl rfl⟩, ⟨rfl, htransform asText rfl⟩,
    ⟨rfl, hcollect asText rfl⟩⟩

end Dataflow
