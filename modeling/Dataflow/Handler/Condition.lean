import Dataflow.Handler.Basic
import Dataflow.Pattern.Reader
import Dataflow.Text.Case
/-!
Conditions: the small language in which branches and filters say what they let through.

A condition is described by data, never by code: the name of an operator with an operand, or an object that
combines others with `all`, `any` and `not`. A test of text ignores case unless told otherwise; it then lowers both
texts as wholes before comparing them.
-/

namespace Dataflow

/-- The tests of a value's text against another text. -/
inductive TextTest where
  | contains
  | equals
  | startsWith
  | endsWith
deriving DecidableEq

inductive Condition where
  | text (test : TextTest) (operand : String) (caseSensitive : Bool)
  | pattern (p : Pattern)
  /-- At least so many characters. -/
  | minLength (n : Nat)
  | greaterThan (bound : Number)
  | lessThan (bound : Number)
  | isEmpty
  | all (conditions : List Condition)
  | any (conditions : List Condition)
  | not (condition : Condition)

/-- Why data does not describe a condition. -/
inductive ConditionFault where
  | notDescribed (typeName : String)
  | notWantsObject
  | operatorMissing
  | combinationWantsList
  | nestedWantsObject
  | operandNotNumeric (operator : String)
  | negativeLength
  | operatorUnknown (operator : String)
  | badPattern (error : PatternError)
deriving DecidableEq

def ConditionFault.message : ConditionFault → String
  | .notDescribed typeName => "'condition' must be an operator name or an object, found " ++ typeName
  | .notWantsObject => "'not' expects an object"
  | .operatorMissing => "condition object needs an 'op', 'all', 'any' or 'not' entry"
  | .combinationWantsList => "'all' and 'any' expect a list of conditions"
  | .nestedWantsObject => "each nested condition must be an object"
  | .operandNotNumeric operator => "operator '" ++ operator ++ "' needs a numeric 'value'"
  | .negativeLength => "'min-length' cannot be negative"
  | .operatorUnknown operator => "unknown condition operator '" ++ operator ++ "'"
  | .badPattern error => "invalid regex pattern: " ++ error.message

/-! ## Meaning -/

def TextTest.holds (test : TextTest) (operand text : List Char) : Bool :=
  match test with
  | .contains => Text.contains operand text
  | .equals => text == operand
  | .startsWith => Text.startsWith operand text
  | .endsWith => Text.endsWith operand text

namespace Condition

/-- Whether a value is null, blank text, or a container without parts. -/
def isEmptyValue : Value → Bool
  | .null => true
  | .text s => (Text.trim s.toList).isEmpty
  | .list items => items.isEmpty
  | .map entries => entries.isEmpty
  | .bool _ | .number _ => false

mutual

/-- Whether a condition holds of a value. -/
def holds (v : Value) : Condition → Bool
  | .text test operand caseSensitive =>
    if caseSensitive then test.holds operand.toList v.toText.toList
    else test.holds (Text.lower operand.toList) (Text.lower v.toText.toList)
  | .pattern p => p.search v.toText.toList
  | .minLength n => decide (n ≤ v.toText.toList.length)
  | .greaterThan bound => (v.toNumber?.map fun x => bound.lt x).getD false
  | .lessThan bound => (v.toNumber?.map fun x => x.lt bound).getD false
  | .isEmpty => isEmptyValue v
  | .all conditions => allHold v conditions
  | .any conditions => anyHolds v conditions
  | .not condition => !holds v condition

def allHold (v : Value) : List Condition → Bool
  | [] => true
  | c :: cs => holds v c && allHold v cs

def anyHolds (v : Value) : List Condition → Bool
  | [] => false
  | c :: cs => holds v c || anyHolds v cs

end

/-! ## Description -/

/-- The condition of an operator with its operand. -/
def ofOperator (operator : String) (operand : Option Value) (caseSensitive : Bool) :
    Except ConditionFault Condition :=
  let text := (operand.map Value.toText).getD ""
  let number : Except ConditionFault Number :=
    match operand.bind Value.toNumber? with
    | some x => .ok x
    | none => .error (.operandNotNumeric operator)
  match operator with
  | "contains" => .ok (.text .contains text caseSensitive)
  | "excludes" => .ok (.not (.text .contains text caseSensitive))
  | "equals" => .ok (.text .equals text caseSensitive)
  | "starts-with" | "startsWith" => .ok (.text .startsWith text caseSensitive)
  | "ends-with" | "endsWith" => .ok (.text .endsWith text caseSensitive)
  | "regex" =>
    match Pattern.read (!caseSensitive) text with
    | .ok p => .ok (.pattern p)
    | .error error => .error (.badPattern error)
  | "min-length" | "length" => do
    let x ← number
    if x.lt .zero then .error .negativeLength else .ok (.minLength x.toCount)
  | "greater-than" => number.map .greaterThan
  | "less-than" => number.map .lessThan
  | "is-empty" => .ok .isEmpty
  | _ => .error (.operatorUnknown operator)

/-- The condition of an object without `all`, `any` and `not`. Its own case setting wins over the one around
it. -/
def ofLeaf (caseSensitive : Bool) (entries : List (String × Value)) : Except ConditionFault Condition :=
  match (entries.lookup "op").bind Value.text? with
  | none => .error .operatorMissing
  | some operator =>
    let ownCase := (entries.lookup "case_sensitive").bind Value.bool?
    ofOperator operator (entries.lookup "value") (ownCase.getD caseSensitive)

/-- The combinations that an object asks for. -/
structure Combinations where
  all : Option (Except ConditionFault (List Condition)) := none
  any : Option (Except ConditionFault (List Condition)) := none
  not : Option (Except ConditionFault Condition) := none

/-- The condition of an object, given its combinations: `all` wins over `any`, that over `not`, and all three over
an operator. -/
def ofCombinations (caseSensitive : Bool) (found : Combinations) (entries : List (String × Value)) :
    Except ConditionFault Condition :=
  match found with
  | ⟨some conditions, _, _⟩ => conditions.map .all
  | ⟨none, some conditions, _⟩ => conditions.map .any
  | ⟨none, none, some condition⟩ => condition.map .not
  | ⟨none, none, none⟩ => ofLeaf caseSensitive entries

mutual

/-- The condition of a value that must be an object. -/
def ofObject (otherwise : ConditionFault) (caseSensitive : Bool) : Value → Except ConditionFault Condition
  | .map entries => ofCombinations caseSensitive (combinations caseSensitive entries) entries
  | _ => .error otherwise

def combinations (caseSensitive : Bool) : List (String × Value) → Combinations
  | [] => {}
  | (key, v) :: entries =>
    let rest := combinations caseSensitive entries
    if key = "all" then { rest with all := some (ofList caseSensitive v) }
    else if key = "any" then { rest with any := some (ofList caseSensitive v) }
    else if key = "not" then { rest with not := some (ofObject .notWantsObject caseSensitive v) }
    else rest

/-- The conditions in a value that must be a list of objects. -/
def ofList (caseSensitive : Bool) : Value → Except ConditionFault (List Condition)
  | .list items => ofItems caseSensitive items
  | _ => .error .combinationWantsList

def ofItems (caseSensitive : Bool) : List Value → Except ConditionFault (List Condition)
  | [] => .ok []
  | v :: vs => do
    let condition ← ofObject .nestedWantsObject caseSensitive v
    let conditions ← ofItems caseSensitive vs
    .ok (condition :: conditions)

end

/-- The condition in the settings of a node. Without one, everything is let through. -/
def ofConfig (config : Config) : Except ConditionFault Condition :=
  let caseSensitive := (config.bool? "case_sensitive").getD false
  match config.get? "condition" with
  | none => .ok (.text .contains "" caseSensitive)
  | some (.text operator) => ofOperator operator (config.get? "value") caseSensitive
  | some (.map entries) => ofCombinations caseSensitive (combinations caseSensitive entries) entries
  | some other => .error (.notDescribed other.typeName)

end Condition

end Dataflow
