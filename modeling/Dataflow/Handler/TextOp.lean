import Dataflow.Handler.Error
import Dataflow.Text.Case
/-!
Text operations: what is done to a text, or to every text in a list of lists.

Null passes through every operation. Numbers and booleans are taken as their text by the operations that build
text or measure it; the ones that change letters or blanks take text alone. The first part that an operation does
not take, from the left, is the one it reports.
-/

namespace Dataflow

inductive TextOp where
  | uppercase
  | lowercase
  | trim
  | prepend (text : String)
  | append (text : String)
  | template (text : String)
  | length
  | number
deriving DecidableEq

namespace TextOp

/-- The names in settings and messages. -/
def name : TextOp → String
  | .uppercase => "uppercase"
  | .lowercase => "lowercase"
  | .trim => "trim"
  | .prepend _ => "prefix"
  | .append _ => "suffix"
  | .template _ => "template"
  | .length => "length"
  | .number => "number"

/-- Whether numbers and booleans are refused. -/
def needsText : TextOp → Bool
  | .uppercase | .lowercase | .trim => true
  | _ => false

/-- What a template has in the places of the item. -/
def placeholder : List Char := "\x7bitem\x7d".toList

/-- The operation on one text. -/
def applyText (op : TextOp) (s : String) : Except HandlerError Value :=
  match op with
  | .uppercase => .ok (.text (String.ofList (Text.upper s.toList)))
  | .lowercase => .ok (.text (String.ofList (Text.lower s.toList)))
  | .trim => .ok (.text (String.ofList (Text.trim s.toList)))
  | .prepend p => .ok (.text (p ++ s))
  | .append p => .ok (.text (s ++ p))
  | .template t => .ok (.text (String.ofList (Text.replace placeholder s.toList t.toList)))
  | .length => .ok (.number (.ofNat s.toList.length))
  | .number =>
    match Value.toNumber? (.text s) with
    | some x => .ok (.number x)
    | none => .error (.typeMismatch "number" "numeric text" (.text s))

/-- The operation on a value that is no list. -/
def applyLeaf (op : TextOp) (v : Value) : Except HandlerError Value :=
  let refused : Except HandlerError Value := .error (.typeMismatch op.name "text or list of text" v)
  match v with
  | .null => .ok .null
  | .text s => op.applyText s
  | .bool _ | .number _ => if op.needsText then refused else op.applyText v.toText
  | .list _ | .map _ => refused

mutual

/-- The operation on a value, and on every leaf of a list. -/
def apply (op : TextOp) : Value → Except HandlerError Value
  | .list items => (applyItems op items).map .list
  | v => op.applyLeaf v

def applyItems (op : TextOp) : List Value → Except HandlerError (List Value)
  | [] => .ok []
  | v :: vs => do
    let image ← apply op v
    let images ← applyItems op vs
    .ok (image :: images)

end

end TextOp

end Dataflow
