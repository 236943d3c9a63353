import Dataflow.Pattern.Escape
/-!
Reading classes in brackets.

A class has characters, ranges, named sets and classes within, and three operations on sets, which group to the
left. Each class within, and each side of an operation, has its case folded before it is used.
-/

namespace Dataflow.Pattern

open Text (CharSet)

inductive SetOp where
  | inter
  | diff
  | symmDiff

def SetOp.apply : SetOp → CharSet → CharSet → CharSet
  | .inter => CharSet.inter
  | .diff => CharSet.diff
  | .symmDiff => CharSet.symmDiff

/-- The items of a class that stand next to each other, or of one side of an operation. -/
structure ClassItems where
  ranges : List (Nat × Nat)
  number : Nat
  /-- How deep the items nest. -/
  depth : Nat

def ClassItems.none : ClassItems := ⟨[], 0, 0⟩

def ClassItems.add (items : ClassItems) (ranges : List (Nat × Nat)) (depth : Nat) : ClassItems :=
  ⟨ranges ++ items.ranges, items.number + 1, max items.depth depth⟩

/-- A set that has been read, with the depth of its nesting. Several items nest one level deeper than one. -/
structure Nested where
  set : CharSet
  depth : Nat

def ClassItems.nested (items : ClassItems) : Nested :=
  ⟨CharSet.normalize ⟨items.ranges⟩, if items.number ≤ 1 then items.depth else items.depth + 1⟩

/-- The part of a class in brackets that has been read. -/
structure ClassState where
  negated : Bool
  /-- The left side of the set operation that stands open. -/
  left : Option (SetOp × Nested)
  items : ClassItems

def ClassState.nested (flags : Flags) (c : ClassState) : Nested :=
  let items := c.items.nested
  match c.left with
  | none => items
  | some (op, left) =>
    ⟨op.apply (foldBy flags left.set) (foldBy flags items.set), max left.depth items.depth + 1⟩

/-- An ASCII class between `[:` and `:]`, if one comes next: its set, and whether it is negated. -/
def asciiClass? (rest : List Char) : Option (CharSet × Bool × List Char) := do
  let rest ← Text.after? ['[', ':'] rest
  let (negated, rest) := match rest with
    | '^' :: rest => (true, rest)
    | rest => (false, rest)
  let name := rest.takeWhile (· != ':')
  let rest ← Text.after? [':', ']'] (rest.dropWhile (· != ':'))
  let set ← asciiSet? (String.ofList name)
  some (set, negated, rest)

/-- One end of a range, or a single item. -/
def classItem : Reading Escape := do
  let c ← take .classNotClosed
  if c = '\\' then escape else return .char c false

/-- The hyphens in front of a class stand for themselves. -/
def leadingHyphens : Nat → ClassItems → Reading ClassItems
  | 0, items => pure items
  | limit + 1, items => do
    if (← peek?) = some '-' then
      let _ ← takeSkipping .classNotClosed
      leadingHyphens limit (items.add [(0x2D, 0x2D)] 0)
    else pure items

/-- The start of a class, after its bracket. A closing bracket that comes first stands for itself. -/
def openClass : Reading ClassState := do
  skipVerbose
  let negated ← takeIf "^"
  if negated then skipVerbose
  let items ← leadingHyphens (← get).length .none
  if items.number = 0 ∧ (← peek?) = some ']' then
    let _ ← takeSkipping .classNotClosed
    return ⟨negated, none, ClassItems.none.add [(0x5D, 0x5D)] 0⟩
  return ⟨negated, none, items⟩

/-- A character that stands in a class. -/
def plainCode (c : Char) : Reading Nat := do
  if !(← get).flags.unicode ∧ 0x80 ≤ c.toNat then throw .notAscii
  return c.toNat

/-- An item or a range of a class. A hyphen before the closing bracket, or before another hyphen, makes no
range. -/
def classRange : Reading (List (Nat × Nat)) := do
  let first ← classItem
  skipVerbose
  let ahead ← peek?
  if ahead.isNone then throw .classNotClosed
  let next ← peekNext?
  if ahead ≠ some '-' ∨ next = some ']' ∨ next = some '-' then
    match first with
    | .char c _ => let code ← plainCode c; return [(code, code)]
    | .set s => return s.ranges
    | .look _ => throw .badEscape
  else
    let _ ← takeSkipping .classNotClosed
    match first, ← classItem with
    | .char a _, .char b _ =>
      let a ← plainCode a
      let b ← plainCode b
      if a ≤ b then return [(a, b)] else throw .badRange
    | _, _ => throw .badRange

/-- A class after its bracket; `outer` has the classes around it, innermost first. -/
def classFrom : Nat → ClassState → List ClassState → Reading Nested
  | 0, _, _ => throw .classNotClosed
  | limit + 1, current, outer => do
    skipVerbose
    let s ← get
    let continueAt (rest : List Char) : Reading Unit := set { s with rest := rest }
    let operator (op : SetOp) (rest : List Char) : Reading Nested := do
      continueAt rest
      classFrom limit { current with left := some (op, current.nested s.flags), items := .none } outer
    match s.rest with
    | [] => throw .classNotClosed
    | '[' :: rest =>
      match asciiClass? s.rest with
      | some (named, negated, rest) =>
        continueAt rest
        let named ← setUnder s.flags negated named
        classFrom limit { current with items := current.items.add named.ranges 0 } outer
      | none =>
        continueAt rest
        classFrom limit (← openClass) (current :: outer)
    | ']' :: rest =>
      continueAt rest
      let inside := current.nested s.flags
      let found : Nested := ⟨← setUnder s.flags current.negated inside.set, inside.depth + 1⟩
      match outer with
      | [] => return found
      | parent :: outer =>
        classFrom limit { parent with items := parent.items.add found.set.ranges found.depth } outer
    | '&' :: '&' :: rest => operator .inter rest
    | '-' :: '-' :: rest => operator .diff rest
    | '~' :: '~' :: rest => operator .symmDiff rest
    | _ =>
      let ranges ← classRange
      classFrom limit { current with items := current.items.add ranges 0 } outer

end Dataflow.Pattern
