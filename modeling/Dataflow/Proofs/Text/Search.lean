import Mathlib.Data.List.Infix
import Mathlib.Data.List.TakeWhile
import Dataflow.Text.Search
import Dataflow.Text.Blank
/-!
What the tests of texts decide.

The search functions compare character by character from the left. What they decide is a relation between whole
texts, and the library has those relations: one text is the beginning of another (`<+:`), its end (`<:+`), or
stands somewhere inside it (`<:+:`).
-/

set_option autoImplicit false

namespace Dataflow.Text

theorem after?_append (lead rest : List Char) : after? lead (lead ++ rest) = some rest := by
  induction lead with
  | nil => rfl
  | cons p lead ih => simp [after?, ih]

theorem startsWith_iff {lead text : List Char} : startsWith lead text = true ↔ lead <+: text := by
  unfold startsWith
  rw [Option.isSome_iff_exists]
  constructor
  · rintro ⟨rest, hrest⟩
    exact ⟨rest, (eq_append_of_after? hrest).symm⟩
  · rintro ⟨rest, rfl⟩
    exact ⟨rest, after?_append lead rest⟩

theorem endsWith_iff {tail text : List Char} : endsWith tail text = true ↔ tail <:+ text := by
  unfold endsWith
  rw [startsWith_iff, List.reverse_prefix]

theorem contains_iff {needle text : List Char} : contains needle text = true ↔ needle <:+: text := by
  induction text with
  | nil => simp [contains]
  | cons c text ih =>
    -- An occurrence begins at the first character or lies behind it.
    rw [contains, Bool.or_eq_true, startsWith_iff, ih, List.infix_cons_iff]

/-- Only blanks are cut away, and a text of blanks is cut away as a whole. -/
theorem trim_eq_nil_iff {cs : List Char} : trim cs = [] ↔ ∀ c ∈ cs, isBlank c = true := by
  unfold trim
  rw [List.reverse_eq_nil_iff, List.dropWhile_eq_nil_iff]
  constructor
  · intro h
    -- The first character kept on the left would be a blank, seen from the right.
    have hleft : cs.dropWhile isBlank = [] := by
      by_contra hne
      have hblank := h _ (List.mem_reverse.2 (List.head_mem hne))
      have hkept := List.head_dropWhile_not isBlank hne
      simp [hblank] at hkept
    exact List.dropWhile_eq_nil_iff.1 hleft
  · intro h c hc
    exact h c ((List.dropWhile_suffix isBlank).mem (List.mem_reverse.1 hc))

end Dataflow.Text
