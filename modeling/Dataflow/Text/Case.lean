import Dataflow.Text.CaseTable
import Dataflow.Text.CaseContext
/-!
Upper and lower case of whole texts.

A character maps to one, two or three characters, whatever stands around it, with one exception: a capital sigma
at the end of a word is lowered to the final form. A word's end is found by looking past the characters that
case does not depend on, in both directions.
-/

namespace Dataflow.Text

/-! ## Single characters -/

/-- The image of a character that the run holds. -/
def CaseRun.image? (r : CaseRun) (code : Nat) : Option Nat :=
  if r.first ≤ code ∧ code ≤ r.last ∧ (code - r.first) % r.stride = 0 then some (code - r.first + r.image)
  else none

/-- A character under a table of runs and a table of expansions; what neither names maps to itself. -/
def mapCase (runs : List CaseRun) (expansions : List (Nat × List Nat)) (c : Char) : List Char :=
  match runs.findSome? (·.image? c.toNat) with
  | some image => [Char.ofNat image]
  | none =>
    match expansions.lookup c.toNat with
    | some images => images.map Char.ofNat
    | none => [c]

def lowerChar (c : Char) : List Char := mapCase lowerRuns lowerExpansions c

def upperChar (c : Char) : List Char := mapCase upperRuns upperExpansions c

/-! ## Texts -/

/-- Whether the first character that case depends on is a cased one. -/
def nextIsCased (cs : List Char) : Bool :=
  match cs.dropWhile caseIgnorable.contains with
  | [] => false
  | c :: _ => cased.contains c

def capitalSigma : Char := Char.ofNat 0x3A3

def smallSigma : Char := Char.ofNat 0x3C3

def finalSigma : Char := Char.ofNat 0x3C2

/-- Lowers a text, given the characters before it in reverse. -/
def lowerAfter (before : List Char) : List Char → List Char
  | [] => []
  | c :: rest =>
    let image :=
      if c = capitalSigma then
        if nextIsCased before && !nextIsCased rest then [finalSigma] else [smallSigma]
      else lowerChar c
    image ++ lowerAfter (c :: before) rest

def lower (cs : List Char) : List Char := lowerAfter [] cs

def upper (cs : List Char) : List Char := cs.flatMap upperChar

end Dataflow.Text
