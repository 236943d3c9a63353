import Dataflow.Handler.Endpoint
import Dataflow.Proofs.Text.Pieces
/-!
Texts inside a page.

A sink that shows its text as part of a page replaces three characters in the whole text, one after the other. The
second and the third replacement run over what the first has written, and all three bring in ampersands, so it is not
plain that they keep out of each other's way. They do, because the ampersand goes first and no entity holds an angle
bracket: together they write every character of the text by itself (`escapeHtml_eq_flatMap`), as an entity or as it is.

From there the rest is read off one character at a time. No angle bracket is left, an ampersand is the beginning of an
entity wherever it stands, and to read the entities once from the left gives the text back
(`unescapeHtml_escapeHtml`), also where the text had the look of an entity before.
-/

set_option autoImplicit false

namespace Dataflow

/-! ## Characters and entities -/

/-- The characters that a page does not show as they are, and their names. An ampersand before the name makes the
entity. -/
def entities : List (Char × List Char) :=
  [('&', "amp;".toList), ('<', "lt;".toList), ('>', "gt;".toList)]

/-- What a page has in the place of a character. -/
def escapeChar (c : Char) : List Char :=
  if c = '&' then "&amp;".toList
  else if c = '<' then "&lt;".toList
  else if c = '>' then "&gt;".toList
  else [c]

/-- A page read once from the left, with the three entities taken for the characters that they stand for. -/
def unescapeHtml : List Char → List Char
  | '&' :: 'a' :: 'm' :: 'p' :: ';' :: rest => '&' :: unescapeHtml rest
  | '&' :: 'l' :: 't' :: ';' :: rest => '<' :: unescapeHtml rest
  | '&' :: 'g' :: 't' :: ';' :: rest => '>' :: unescapeHtml rest
  | c :: rest => c :: unescapeHtml rest
  | [] => []

/-- A character has an entity and is written as it, or has none and is written as it is. -/
theorem escapeChar_cases (c : Char) :
    (∃ name, (c, name) ∈ entities ∧ escapeChar c = '&' :: name) ∨
      c ≠ '&' ∧ c ≠ '<' ∧ c ≠ '>' ∧ escapeChar c = [c] := by
  by_cases hamp : c = '&'
  · rw [hamp]
    exact .inl ⟨"amp;".toList, by decide, rfl⟩
  by_cases hlt : c = '<'
  · rw [hlt]
    exact .inl ⟨"lt;".toList, by decide, rfl⟩
  by_cases hgt : c = '>'
  · rw [hgt]
    exact .inl ⟨"gt;".toList, by decide, rfl⟩
  · right
    rw [escapeChar, if_neg hamp, if_neg hlt, if_neg hgt]
    exact ⟨hamp, hlt, hgt, rfl⟩

/-- No name holds a character that has an entity. -/
theorem not_mem_name {c : Char} {name : List Char} (h : (c, name) ∈ entities) :
    '&' ∉ name ∧ '<' ∉ name ∧ '>' ∉ name := by
  have hall : ∀ entity ∈ entities, '&' ∉ entity.2 ∧ '<' ∉ entity.2 ∧ '>' ∉ entity.2 := by decide
  exact hall (c, name) h

/-! ## Whole texts -/

/-- **The three replacements write every character by itself.** -/
theorem escapeHtml_eq_flatMap (text : List Char) : escapeHtml text = text.flatMap escapeChar := by
  unfold escapeHtml
  rw [Text.replace_singleton, Text.replace_singleton, Text.replace_singleton, List.flatMap_assoc, List.flatMap_assoc]
  congr 1
  funext c
  -- What the first replacement makes of a character goes through the other two.
  by_cases hamp : c = '&'
  · rw [hamp]
    decide
  by_cases hlt : c = '<'
  · rw [hlt]
    decide
  by_cases hgt : c = '>'
  · rw [hgt]
    decide
  · rw [escapeChar]
    simp only [if_neg hamp, if_neg hlt, if_neg hgt, List.flatMap_cons, List.flatMap_nil, List.append_nil]

theorem not_mem_escapeHtml (text : List Char) : '<' ∉ escapeHtml text ∧ '>' ∉ escapeHtml text := by
  have hchar (c : Char) : '<' ∉ escapeChar c ∧ '>' ∉ escapeChar c := by
    rcases escapeChar_cases c with ⟨name, hname, hc⟩ | ⟨-, hlt, hgt, hc⟩
    · obtain ⟨-, hlt, hgt⟩ := not_mem_name hname
      rw [hc, List.mem_cons, List.mem_cons]
      exact ⟨not_or.2 ⟨by decide, hlt⟩, not_or.2 ⟨by decide, hgt⟩⟩
    · rw [hc, List.mem_singleton, List.mem_singleton]
      exact ⟨hlt.symm, hgt.symm⟩
  rw [escapeHtml_eq_flatMap, List.mem_flatMap, List.mem_flatMap]
  constructor
  · rintro ⟨c, -, hc⟩
    exact (hchar c).1 hc
  · rintro ⟨c, -, hc⟩
    exact (hchar c).2 hc

/-- What stands from a character on, in a text that does not have it in its front part, stands in the rest. -/
theorem suffix_of_suffix_append {x : Char} {more front back : List Char} (hx : x ∉ front)
    (h : x :: more <:+ front ++ back) : x :: more <:+ back := by
  induction front with
  | nil => exact h
  | cons c front ih =>
    rw [List.mem_cons, not_or] at hx
    rcases List.suffix_cons_iff.1 h with heq | hsuffix
    · exact absurd (List.cons.inj heq).1 hx.1
    · exact ih hx.2 hsuffix

/-- Wherever an ampersand stands, an entity begins. -/
theorem exists_name_of_suffix {text rest : List Char} (h : '&' :: rest <:+ escapeHtml text) :
    ∃ entity ∈ entities, entity.2 <+: rest := by
  rw [escapeHtml_eq_flatMap] at h
  induction text with
  | nil => exact absurd (List.suffix_nil.1 h) (List.cons_ne_nil _ _)
  | cons c text ih =>
    rw [List.flatMap_cons] at h
    rcases escapeChar_cases c with ⟨name, hname, hc⟩ | ⟨hamp, -, -, hc⟩
    · rw [hc, List.cons_append] at h
      rcases List.suffix_cons_iff.1 h with heq | hsuffix
      · refine ⟨(c, name), hname, ?_⟩
        rw [(List.cons.inj heq).2]
        exact List.prefix_append name _
      · exact ih (suffix_of_suffix_append (not_mem_name hname).1 hsuffix)
    · rw [hc] at h
      have hfront : '&' ∉ [c] := fun hmem => hamp (List.mem_singleton.1 hmem).symm
      exact ih (suffix_of_suffix_append hfront h)

/-! ## Reading back -/

theorem unescapeHtml_cons {c : Char} (hc : c ≠ '&') (rest : List Char) :
    unescapeHtml (c :: rest) = c :: unescapeHtml rest := by
  rw [unescapeHtml]
  all_goals
    intro more h
    exact absurd h hc

theorem unescapeHtml_entity {c : Char} {name : List Char} (h : (c, name) ∈ entities) (rest : List Char) :
    unescapeHtml ('&' :: (name ++ rest)) = c :: unescapeHtml rest := by
  rw [entities, List.mem_cons, List.mem_cons, List.mem_singleton] at h
  rcases h with h | h | h
  all_goals
    obtain ⟨rfl, rfl⟩ := Prod.mk.inj h
    rfl

theorem unescapeHtml_escapeHtml (text : List Char) : unescapeHtml (escapeHtml text) = text := by
  rw [escapeHtml_eq_flatMap]
  induction text with
  | nil => rfl
  | cons c text ih =>
    rw [List.flatMap_cons]
    rcases escapeChar_cases c with ⟨name, hname, hc⟩ | ⟨hamp, -, -, hc⟩
    · rw [hc, List.cons_append, unescapeHtml_entity hname, ih]
    · rw [hc, List.singleton_append, unescapeHtml_cons hamp, ih]

/-! ## The sink -/

theorem collectOutput_invoke_html {config : Config} (hformat : config.text? "format" = some "html")
    (inbound : List Value) : (collectOutput.invoke inbound config).result =
      .ok (.text ("<pre>" ++ String.ofList (escapeHtml (gather inbound).toText.toList) ++ "</pre>")) :=
  collectOutput_invoke (Config.textD_of_text? hformat) rfl inbound

/-- **A page shows the text that was gathered, and nothing of it is taken for markup.** Inside the tags there is no
angle bracket, and no ampersand that does not begin an entity; the entities, read once from the left, give the text
back. So different texts make different pages. -/
theorem collectOutput_html_reversible {config : Config} (hformat : config.text? "format" = some "html")
    (inbound : List Value) : ∃ page : List Char,
      (collectOutput.invoke inbound config).result = .ok (.text ("<pre>" ++ String.ofList page ++ "</pre>")) ∧
      '<' ∉ page ∧ '>' ∉ page ∧
      (∀ rest, '&' :: rest <:+ page → "amp;".toList <+: rest ∨ "lt;".toList <+: rest ∨ "gt;".toList <+: rest) ∧
      unescapeHtml page = (gather inbound).toText.toList ∧
      ∀ other, (collectOutput.invoke other config).result = (collectOutput.invoke inbound config).result →
        (gather other).toText = (gather inbound).toText := by
  obtain ⟨hlt, hgt⟩ := not_mem_escapeHtml (gather inbound).toText.toList
  refine ⟨escapeHtml (gather inbound).toText.toList, collectOutput_invoke_html hformat inbound, hlt, hgt, ?_,
    unescapeHtml_escapeHtml _, ?_⟩
  · intro rest hrest
    obtain ⟨entity, hentity, hlead⟩ := exists_name_of_suffix hrest
    rw [entities, List.mem_cons, List.mem_cons, List.mem_singleton] at hentity
    rcases hentity with rfl | rfl | rfl
    · exact .inl hlead
    · exact .inr (.inl hlead)
    · exact .inr (.inr hlead)
  · intro other hsame
    rw [collectOutput_invoke_html hformat, collectOutput_invoke_html hformat] at hsame
    have hpages := congrArg String.toList (Value.text.inj (Except.ok.inj hsame))
    simp only [String.toList_append, String.toList_ofList, List.append_cancel_right_eq,
      List.append_cancel_left_eq] at hpages
    have htexts := congrArg unescapeHtml hpages
    rw [unescapeHtml_escapeHtml, unescapeHtml_escapeHtml] at htexts
    exact String.toList_injective htexts

/-- The settings of a sink that makes a page. -/
def pageSettings : Config := .ofList [("format", .text "html")]

/-- A text with the look of an entity is not mixed up with the character that the entity stands for. -/
theorem collectOutput_html_reversible_entity : pageSettings.text? "format" = some "html" ∧
    (∃ page : List Char,
      (collectOutput.invoke [.text "1 < 2", .text "&lt;"] pageSettings).result =
        .ok (.text ("<pre>" ++ String.ofList page ++ "</pre>")) ∧
      '<' ∉ page ∧ unescapeHtml page = "1 < 2\n&lt;".toList) ∧
    (collectOutput.invoke [.text "<"] pageSettings).result ≠
      (collectOutput.invoke [.text "&lt;"] pageSettings).result := by
  have hformat : pageSettings.text? "format" = some "html" := rfl
  obtain ⟨page, hresult, hlt, -, -, hback, -⟩ :=
    collectOutput_html_reversible hformat [.text "1 < 2", .text "&lt;"]
  obtain ⟨-, -, -, -, -, -, hother⟩ := collectOutput_html_reversible hformat [.text "&lt;"]
  refine ⟨hformat, ⟨page, hresult, hlt, hback⟩, ?_⟩
  intro hsame
  exact absurd (hother [.text "<"] hsame) (by decide)

end Dataflow
