import Dataflow.Text.CharSet
import Dataflow.Pattern.CategoryTable
import Dataflow.Pattern.PropertyTable
/-!
Sets of characters from the tables.
-/

namespace Dataflow.Pattern

open Text (CharSet)

/-! ## Reading a table -/

def hexDigit? (c : Char) : Option Nat :=
  if '0' ≤ c ∧ c ≤ '9' then some (c.toNat - 48)
  else if 'A' ≤ c ∧ c ≤ 'F' then some (c.toNat - 55)
  else none

def hexCode (cs : List Char) : Nat := cs.foldl (fun n c => 16 * n + (hexDigit? c).getD 0) 0

/-- The set that a table lists as ranges in hexadecimal. -/
def setOfTable (lines : List String) : CharSet :=
  ⟨lines.flatMap fun line => (line.toList.splitOn ' ').map fun entry =>
    match entry.splitOn '-' with
    | [first, last] => (hexCode first, hexCode last)
    | _ => (hexCode entry, hexCode entry)⟩

/-- The set that a table has under a name. -/
def tableSet? (table : List (List String × List String)) (name : String) : Option CharSet :=
  (table.find? fun entry => entry.1.contains name).map fun entry => setOfTable entry.2

/-! ## Categories -/

/-- The characters of some categories, by their short names. -/
def ofCategories (names : List String) : CharSet :=
  CharSet.unions (names.map fun name => (tableSet? categoryTable name).getD .empty)

/-- The code points of the surrogates, which are no characters. -/
def surrogates : CharSet := ⟨[(0xD800, 0xDFFF)]⟩

/-- The characters without a category. -/
def unassigned : CharSet :=
  (CharSet.unions (surrogates :: categoryTable.map fun entry => setOfTable entry.2)).complement

/-- The characters that are neither letters, marks, numbers, punctuation, symbols nor separators. They lie on both
sides of the surrogates, and the range there runs across. -/
def others : CharSet := CharSet.unions [ofCategories ["cc", "cf", "co"], unassigned, surrogates]

/-- The set of a general category, or of a group of them. -/
def categorySet? (name : String) : Option CharSet :=
  match name with
  | "any" => some .all
  | "ascii" => some ⟨[(0, 0x7F)]⟩
  | "assigned" => some unassigned.complement
  | "cn" | "unassigned" => some unassigned
  | "c" | "other" => some others
  | _ =>
    match categoryGroups.find? fun entry => entry.1.contains name with
    | some (_, members) => some (ofCategories members)
    | none => tableSet? categoryTable name

/-! ## Properties -/

/-- The characters with a property of the table. -/
def withProperty (name : String) : CharSet := (tableSet? propertyTable name).getD .empty

end Dataflow.Pattern
