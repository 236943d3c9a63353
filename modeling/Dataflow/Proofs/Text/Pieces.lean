import Dataflow.Proofs.Text.Search
/-!
Texts cut at a separator.

A text is cut from the left: where the separator begins, a piece ends, and elsewhere the piece goes on by one
character. These two rules are all there is to know of the search (`pieces_append`, `pieces_cons`); what follows from
them is that no piece holds a separator (`not_infix_of_mem_pieces`), and that a separator of one character is replaced
wherever it stands (`replace_singleton`).
-/

set_option autoImplicit false

namespace Dataflow.Text

theorem after?_eq_none_iff {lead text : List Char} : after? lead text = none ↔ ¬ lead <+: text := by
  rw [← startsWith_iff, startsWith, Option.isSome_iff_ne_none, not_not]

section
variable {sep : List Char}

theorem pieces_nil (hsep : sep ≠ []) : pieces sep [] = [[]] := by
  obtain ⟨first, more, rfl⟩ := List.exists_cons_of_ne_nil hsep
  rw [pieces, piecesAt]

/-- At a separator a piece ends. -/
theorem pieces_append (hsep : sep ≠ []) (tail : List Char) : pieces sep (sep ++ tail) = [] :: pieces sep tail := by
  obtain ⟨first, more, rfl⟩ := List.exists_cons_of_ne_nil hsep
  have hcut : after? (first :: more) (first :: (more ++ tail)) = some tail := after?_append (first :: more) tail
  rw [pieces, pieces, List.cons_append, piecesAt]
  split
  · rename_i found hfound
    rw [hcut] at hfound
    obtain rfl := Option.some.inj hfound
    rfl
  · rename_i hnone
    rw [hcut] at hnone
    cases hnone

/-- Elsewhere a piece goes on by one character. -/
theorem pieces_cons (hsep : sep ≠ []) {c : Char} {rest : List Char} (h : ¬ sep <+: c :: rest) :
    pieces sep (c :: rest) = (pieces sep rest).modifyHead (c :: ·) := by
  obtain ⟨first, more, rfl⟩ := List.exists_cons_of_ne_nil hsep
  have hnone := after?_eq_none_iff.2 h
  rw [pieces, pieces, piecesAt]
  split
  · rename_i found hfound
    rw [hnone] at hfound
    cases hfound
  · rfl

/-- Characters with which no separator begins stay together. -/
theorem pieces_append_of_head (hsep : sep ≠ []) {front tail : List Char} (h : sep.head hsep ∉ front) :
    pieces sep (front ++ tail) = (pieces sep tail).modifyHead (front ++ ·) := by
  induction front with
  | nil =>
    rw [List.nil_append]
    cases pieces sep tail <;> rfl
  | cons c front ih =>
    rw [List.mem_cons, not_or] at h
    have hno : ¬ sep <+: c :: (front ++ tail) := fun hlead => h.1 (hlead.head hsep)
    rw [List.cons_append, pieces_cons hsep hno, ih h.2, List.modifyHead_modifyHead]
    rfl

/-- There is a first piece, and the text begins with it. -/
theorem exists_pieces_eq_cons (hsep : sep ≠ []) (text : List Char) :
    ∃ piece others, pieces sep text = piece :: others ∧ piece <+: text := by
  induction text with
  | nil => exact ⟨[], [], pieces_nil hsep, List.nil_prefix⟩
  | cons c rest ih =>
    by_cases h : sep <+: c :: rest
    · obtain ⟨tail, htail⟩ := h
      rw [← htail]
      exact ⟨[], pieces sep tail, pieces_append hsep tail, List.nil_prefix⟩
    · obtain ⟨piece, others, hpieces, hlead⟩ := ih
      refine ⟨c :: piece, others, ?_, List.cons_prefix_cons.2 ⟨rfl, hlead⟩⟩
      rw [pieces_cons hsep h, hpieces]
      rfl

theorem pieces_ne_nil (hsep : sep ≠ []) (text : List Char) : pieces sep text ≠ [] := by
  obtain ⟨piece, others, hpieces, -⟩ := exists_pieces_eq_cons hsep text
  rw [hpieces]
  exact List.cons_ne_nil piece others

/-- **No piece holds a separator.** By induction on the length, as a separator takes several characters at once. -/
theorem not_infix_of_mem_pieces (hsep : sep ≠ []) {text piece : List Char} (h : piece ∈ pieces sep text) :
    ¬ sep <:+: piece := by
  induction hlength : text.length using Nat.strong_induction_on generalizing text piece with
  | _ length ih =>
    have hempty : ¬ sep <:+: [] := fun hwithin => hsep (List.infix_nil.1 hwithin)
    cases text with
    | nil =>
      rw [pieces_nil hsep, List.mem_singleton] at h
      rw [h]
      exact hempty
    | cons c rest =>
      by_cases hcut : sep <+: c :: rest
      · obtain ⟨tail, htail⟩ := hcut
        rw [← htail, pieces_append hsep, List.mem_cons] at h
        rcases h with rfl | h
        · exact hempty
        · refine ih tail.length ?_ h rfl
          have hshorter := List.length_pos_of_ne_nil hsep
          rw [← hlength, ← htail, List.length_append]
          omega
      · obtain ⟨head, others, hpieces, hlead⟩ := exists_pieces_eq_cons hsep rest
        have hrest {piece : List Char} (hpiece : piece ∈ head :: others) : ¬ sep <:+: piece :=
          ih rest.length (by rw [← hlength, List.length_cons]; omega) (hpieces ▸ hpiece) rfl
        rw [pieces_cons hsep hcut, hpieces, List.modifyHead_cons, List.mem_cons] at h
        rcases h with rfl | h
        · -- A separator in the first piece would be behind its first character, or at the beginning of the text.
          rw [List.infix_cons_iff]
          rintro (hstart | hbehind)
          · exact hcut (hstart.trans (List.cons_prefix_cons.2 ⟨rfl, hlead⟩))
          · exact hrest List.mem_cons_self hbehind
        · exact hrest (List.mem_cons_of_mem _ h)

end

/-! ## Pieces joined -/

section
variable {sep : List Char} {front back : List (List Char)}

theorem intercalate_append (hfront : front ≠ []) (hback : back ≠ []) :
    sep.intercalate (front ++ back) = sep.intercalate front ++ sep ++ sep.intercalate back := by
  induction front with
  | nil => exact absurd rfl hfront
  | cons l front ih =>
    cases front with
    | nil => rw [List.cons_append, List.nil_append, List.intercalate_cons_of_ne_nil hback, List.intercalate_singleton]
    | cons l' front =>
      have hrest := ih (List.cons_ne_nil _ _)
      rw [List.cons_append] at hrest
      rw [List.cons_append, List.cons_append, List.intercalate_cons_cons, hrest, List.intercalate_cons_cons]
      simp only [List.append_assoc]

theorem intercalate_modifyHead_cons {c : Char} (hback : back ≠ []) :
    sep.intercalate (back.modifyHead (c :: ·)) = c :: sep.intercalate back := by
  obtain ⟨l, rest, rfl⟩ := List.exists_cons_of_ne_nil hback
  cases rest with
  | nil => simp only [List.modifyHead_cons, List.intercalate_singleton]
  | cons l' rest => simp only [List.modifyHead_cons, List.intercalate_cons_cons, List.cons_append]

/-- Pieces that are joined from pieces by the same text are joined as one row of pieces. -/
theorem intercalate_flatMap {α : Type} {f : α → List (List Char)} {xs : List α} (hf : ∀ x ∈ xs, f x ≠ []) :
    sep.intercalate (xs.flatMap f) = sep.intercalate (xs.map fun x => sep.intercalate (f x)) := by
  induction xs with
  | nil => rfl
  | cons x xs ih =>
    have hrest := ih fun y hy => hf y (List.mem_cons_of_mem x hy)
    cases xs with
    | nil => simp only [List.flatMap_cons, List.flatMap_nil, List.append_nil, List.map_cons, List.map_nil,
        List.intercalate_singleton]
    | cons y xs =>
      have hne : (y :: xs).flatMap f ≠ [] := by
        rw [List.flatMap_cons]
        exact List.append_ne_nil_of_left_ne_nil (hf y (by simp)) _
      have hmap : (y :: xs).map (fun x => sep.intercalate (f x)) ≠ [] := by simp
      rw [List.flatMap_cons, intercalate_append (hf x List.mem_cons_self) hne, hrest, List.map_cons (l := y :: xs),
        List.intercalate_cons_of_ne_nil hmap]

end

/-! ## Single characters replaced -/

/-- To replace one character by a text is to go through the characters one by one. -/
theorem replace_singleton (c : Char) (new text : List Char) :
    replace [c] new text = text.flatMap fun x => if x = c then new else [x] := by
  have hsep : [c] ≠ [] := List.cons_ne_nil c []
  unfold replace
  induction text with
  | nil => rw [pieces_nil hsep, List.intercalate_singleton, List.flatMap_nil]
  | cons x rest ih =>
    rw [List.flatMap_cons]
    by_cases hx : x = c
    · have hcut : pieces [c] (x :: rest) = [] :: pieces [c] rest := by
        rw [hx]
        exact pieces_append hsep rest
      rw [hcut, if_pos hx, List.intercalate_cons_of_ne_nil (pieces_ne_nil hsep rest), List.nil_append, ih]
    · have hno : ¬ [c] <+: x :: rest := by
        intro hlead
        exact hx (List.cons_prefix_cons.1 hlead).1.symm
      rw [pieces_cons hsep hno, intercalate_modifyHead_cons (pieces_ne_nil hsep rest), ih, if_neg hx]
      rfl

end Dataflow.Text
