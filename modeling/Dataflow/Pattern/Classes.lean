import Dataflow.Pattern.Segmentation
import Dataflow.Pattern.SharedTable
import Dataflow.Pattern.AgeTable
import Dataflow.Pattern.FoldTable
/-!
The sets of characters that patterns name.
-/

namespace Dataflow.Pattern

open Text (CharSet)

/-! ## Names -/

/-- A name without regard to case, blanks, hyphens and underscores, and without an `is` at its very beginning. The
one name that would be a single letter without it keeps it. -/
def looseName (name : List Char) : String :=
  let kept (cs : List Char) : List Char :=
    (cs.filter fun c => c.toNat < 0x80 && c != ' ' && c != '_' && c != '-').map Char.toLower
  match name with
  | first :: second :: rest =>
    if (first = 'i' ∨ first = 'I') ∧ (second = 's' ∨ second = 'S') then
      match kept rest with
      | ['c'] => "isc"
      | stripped => String.ofList stripped
    else String.ofList (kept name)
  | _ => String.ofList (kept name)

/-! ## Named sets -/

/-- The set of a name that says nothing about its kind: a property, a category or a script. Three names mean
categories although properties have them too. -/
def namedSet? (name : String) : Option CharSet :=
  if name = "cf" ∨ name = "sc" ∨ name = "lc" then categorySet? name
  else match propertySet? name with
    | some set => some set
    | none => match categorySet? name with
      | some set => some set
      | none => tableSet? scriptTable name

/-- The characters that are used in a script, whether they belong to it or not. -/
def usedInScript? (name : String) : Option CharSet :=
  match scriptTable.find? fun entry => entry.1.contains name with
  | some (short :: _, own) =>
    let listed := CharSet.unions (sharedTable.map fun entry => setOfTable entry.2)
    let shared := sharedTable.filter fun entry => entry.1.contains short
    some (CharSet.unions ((setOfTable own).diff listed :: shared.map fun entry => setOfTable entry.2))
  | _ => none

/-- The characters of a version and of all before it. -/
def versionSet? (name : String) : Option CharSet :=
  match ageTable.findIdx? fun entry => entry.1.contains name with
  | some i => some (CharSet.unions ((ageTable.take (i + 1)).map fun entry => setOfTable entry.2))
  | none => none

/-- The set of the characters whose property has a value. -/
def valueSet? (property value : String) : Option CharSet :=
  match property with
  | "gc" | "generalcategory" => categorySet? value
  | "sc" | "script" => tableSet? scriptTable value
  | "scx" | "scriptextensions" => usedInScript? value
  | "age" => versionSet? value
  | "gcb" | "graphemeclusterbreak" => clusterSet? value
  | "wb" | "wordbreak" => wordPartSet? value
  | "sb" | "sentencebreak" => sentencePartSet? value
  | _ => none

/-! ## Short names -/

/-- The sets of the one-letter classes. -/
def digitSet : CharSet := ofCategories ["nd"]

def spaceSet : CharSet := withProperty "space"

def asciiDigitSet : CharSet := ⟨[(0x30, 0x39)]⟩

def asciiSpaceSet : CharSet := ⟨[(0x9, 0xD), (0x20, 0x20)]⟩

def asciiWordSet : CharSet := ⟨[(0x30, 0x39), (0x41, 0x5A), (0x5F, 0x5F), (0x61, 0x7A)]⟩

/-- The sets that may be named between `[:` and `:]`. -/
def asciiSet? (name : String) : Option CharSet :=
  match name with
  | "alnum" => some ⟨[(0x30, 0x39), (0x41, 0x5A), (0x61, 0x7A)]⟩
  | "alpha" => some ⟨[(0x41, 0x5A), (0x61, 0x7A)]⟩
  | "ascii" => some ⟨[(0, 0x7F)]⟩
  | "blank" => some ⟨[(0x9, 0x9), (0x20, 0x20)]⟩
  | "cntrl" => some ⟨[(0, 0x1F), (0x7F, 0x7F)]⟩
  | "digit" => some asciiDigitSet
  | "graph" => some ⟨[(0x21, 0x7E)]⟩
  | "lower" => some ⟨[(0x61, 0x7A)]⟩
  | "print" => some ⟨[(0x20, 0x7E)]⟩
  | "punct" => some ⟨[(0x21, 0x2F), (0x3A, 0x40), (0x5B, 0x60), (0x7B, 0x7E)]⟩
  | "space" => some asciiSpaceSet
  | "upper" => some ⟨[(0x41, 0x5A)]⟩
  | "word" => some asciiWordSet
  | "xdigit" => some ⟨[(0x30, 0x39), (0x41, 0x46), (0x61, 0x66)]⟩
  | _ => none

/-! ## Names of groups -/

/-- Letters of a later version of the character set than the tables have, which names of groups may use. -/
def laterLetters : CharSet := setOfTable [
  "88F C5C CDC A7CE-A7CF A7D2 A7D4 A7F1 10940-10959 10EC5-10EC7 10EFA-10EFB 11B60-11B67 11DB0-11DDB",
  "16EA0-16EB8 16EBB-16ED3 16FF2-16FF6 187F8-187FF 18D09-18D1E 18D80-18DF2 1E6C0-1E6DE 1E6E0-1E6F5",
  "1E6FE-1E6FF 2B73A-2B73F 2CEA2-2CEAD 323B0-33479"]

def laterDigits : CharSet := ⟨[(0x11DE0, 0x11DE9)]⟩

/-- The characters that a name of a group may begin with. -/
def nameStartSet : CharSet := CharSet.unions [alphabetic, laterLetters, .single '_']

/-- The characters of names of groups. -/
def nameSet : CharSet :=
  CharSet.unions [nameStartSet, ofCategories ["nd", "nl", "no"], laterDigits,
    ⟨[(0x2E, 0x2E), (0x5B, 0x5B), (0x5D, 0x5D)]⟩]

/-! ## Case -/

/-- The images of a range of code points under a run. -/
def runImages (range : Nat × Nat) (run : Text.CaseRun) : List (Nat × Nat) :=
  let first := max range.1 run.first
  let last := min range.2 run.last
  (List.range (last + 1 - first)).filterMap fun i => (run.image? (first + i)).map fun code => (code, code)

/-- A set with everything that differs from a member in case only. -/
def foldCase (set : CharSet) : CharSet :=
  CharSet.normalize ⟨set.ranges ++ set.ranges.flatMap fun range => foldRuns.flatMap (runImages range)⟩

/-- The same for the letters of ASCII alone. -/
def foldAsciiCase (set : CharSet) : CharSet :=
  let runs : List Text.CaseRun := [⟨0x41, 0x5A, 1, 0x61⟩, ⟨0x61, 0x7A, 1, 0x41⟩]
  CharSet.normalize ⟨set.ranges ++ set.ranges.flatMap fun range => runs.flatMap (runImages range)⟩

def isAscii (set : CharSet) : Bool := set.ranges.all fun r => r.2 < 0x80

end Dataflow.Pattern
