/-!
Finding, cutting and replacing a piece of text.

A text is cut at an occurrence of a separator as soon as one is met from the left, and the search goes on after
it, so occurrences never overlap. Replacing is cutting and joining with something else.
-/

namespace Dataflow.Text

/-- What follows `lead` in a text that starts with it. -/
def after? : List Char → List Char → Option (List Char)
  | [], text => some text
  | _ :: _, [] => none
  | p :: lead, c :: text => if p = c then after? lead text else none

theorem eq_append_of_after? {lead text rest : List Char} (h : after? lead text = some rest) :
    text = lead ++ rest := by
  fun_induction after? lead text with
  | case1 text => simpa using h
  | case2 => simp at h
  | case3 p lead text ih => simp [ih h]
  | case4 => simp at h

/-- Whether a text starts with `lead`. -/
def startsWith (lead text : List Char) : Bool := (after? lead text).isSome

/-- Whether a text ends with `tail`. -/
def endsWith (tail text : List Char) : Bool := startsWith tail.reverse text.reverse

/-- Whether `needle` stands anywhere in a text. -/
def contains (needle : List Char) : List Char → Bool
  | [] => needle.isEmpty
  | c :: text => startsWith needle (c :: text) || contains needle text

/-- The pieces between the occurrences of the separator `first :: more`. -/
def piecesAt (first : Char) (more : List Char) (text : List Char) : List (List Char) :=
  match text with
  | [] => [[]]
  | c :: rest =>
    match h : after? (first :: more) (c :: rest) with
    | some tail =>
      have : tail.length < rest.length + 1 := by
        have := congrArg List.length (eq_append_of_after? h)
        simp at this; omega
      [] :: piecesAt first more tail
    | none => (piecesAt first more rest).modifyHead (c :: ·)
termination_by text.length

/-- The pieces between the occurrences of a separator. The empty separator stands between any two characters and
at both ends. -/
def pieces (separator text : List Char) : List (List Char) :=
  match separator with
  | [] => [] :: text.map ([·]) ++ [[]]
  | first :: more => piecesAt first more text

/-- A text with every occurrence of `old` replaced. -/
def replace (old new text : List Char) : List Char := new.intercalate (pieces old text)

/-- The lines of a text to be shown: a line break ends a line, together with a carriage return before it, and
nothing after the last one is no line. -/
def shownLines (text : List Char) : List (List Char) :=
  let parts := text.splitOn '\n'
  let ended := parts.dropLast.map fun line => if line.getLast? = some '\r' then line.dropLast else line
  match parts.getLast? with
  | none | some [] => ended
  | some unended => ended ++ [unended]

end Dataflow.Text
