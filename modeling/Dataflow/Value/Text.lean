import Dataflow.Value.Basic
import Dataflow.Number.Text
import Dataflow.Text.Blank
import Dataflow.Text.Search
/-!
Values as text, as numbers and as lists of items.

`display` is the rendering inside messages and listings, where lists and maps keep their brackets. `toText` is
the text a handler works on: nothing for null, and one line per item for a list. `items` goes back from text to
lines.
-/

namespace Dataflow.Value

/-! ## Text -/

def boolText (b : Bool) : String := if b then "true" else "false"

mutual

/-- The rendering in messages and listings. -/
def display : Value → String
  | .null => "null"
  | .bool b => boolText b
  | .number x => x.text
  | .text s => s
  | .list items => "[" ++ ", ".intercalate (displayItems items) ++ "]"
  | .map entries => "\x7b" ++ ", ".intercalate (displayEntries entries) ++ "\x7d"

def displayItems : List Value → List String
  | [] => []
  | v :: vs => v.display :: displayItems vs

def displayEntries : List (String × Value) → List String
  | [] => []
  | (k, v) :: es => (k ++ ": " ++ v.display) :: displayEntries es

end

mutual

/-- The text a handler works on. -/
def toText : Value → String
  | .null => ""
  | .bool b => boolText b
  | .number x => x.text
  | .text s => s
  | .list items => "\n".intercalate (textItems items)
  | .map entries => display (.map entries)

/-- The texts of several values. -/
def textItems : List Value → List String
  | [] => []
  | v :: vs => v.toText :: textItems vs

end

/-! ## Number -/

/-- The number a value stands for; a text stands for the number it denotes, blanks around it aside. -/
def toNumber? : Value → Option Number
  | .number x => some x
  | .bool b => some (if b then .one else .zero)
  | .text s => Number.read? (Text.trim s.toList)
  | .null | .list _ | .map _ => none

/-! ## Items -/

/-- The lines of a text, cut at every line break. -/
def textLines (s : String) : List String := (s.toList.splitOn '\n').map String.ofList

/-- A value as a list of items. -/
def items : Value → List Value
  | .list vs => vs
  | .null => []
  | .text s => (textLines s).map .text
  | other => [other]

end Dataflow.Value
