import Std.Data.HashMap
import Dataflow.Pattern.Basic
import Dataflow.Pattern.ByteRange
/-!
The size of the automaton of a pattern.

A pattern is accepted if its automaton on bytes, and the one for reading backwards, stay under a limit. Neither is
built here: only its states are counted, in the order in which they would be made, since equal ends of byte
sequences are shared as far as a small cache remembers them, and the cache goes by the numbers of the states.
-/

namespace Dataflow.Pattern

/-! ## Counting -/

/-- The size of an automaton so far: its states, and what the steps out of them take. -/
structure Tally where
  states : Nat
  steps : Nat

namespace Tally

/-- The size of a state, of a choice between states and of a step on a range of bytes. -/
def stateSize : Nat := 32

def choiceSize : Nat := 4

def stepSize : Nat := 8

def size (t : Tally) : Nat := stateSize * t.states + t.steps

def limit : Nat := 10485760

/-- The size, unless it is over the limit. -/
def checked (t : Tally) : Option Tally := if limit < t.size then none else some t

/-- One more state, with the size of the steps out of it. -/
def state (steps : Nat) (t : Tally) : Option Tally := checked ⟨t.states + 1, t.steps + steps⟩

def choice (t : Tally) : Option Tally := checked ⟨t.states, t.steps + choiceSize⟩

/-- A step out of the end of a part; only if the end is a state of choice it takes space. -/
def link (fromChoice : Bool) (t : Tally) : Option Tally := if fromChoice then t.choice else some t

end Tally

/-- How a part of a pattern makes the automaton grow, and whether the end of the part is a state of choice. -/
structure Growth where
  run : Tally → Option (Bool × Tally)

namespace Growth

/-- A part of one state, which is no choice. -/
def single : Growth := ⟨fun t => (t.state 0).map (false, ·)⟩

/-- Parts behind one whose end is given. -/
def follow : List Growth → Bool → Tally → Option (Bool × Tally)
  | [], choice, t => some (choice, t)
  | g :: gs, choice, t =>
    match g.run t with
    | none => none
    | some (choice', t) =>
      match t.link choice with
      | none => none
      | some t => follow gs choice' t

/-- Parts one after the other. -/
def seq : List Growth → Growth
  | [] => single
  | g :: gs => ⟨fun t => do
    let (choice, t) ← g.run t
    follow gs choice t⟩

/-- Further branches of a choice, which lead to its end. -/
def branch : List Growth → Tally → Option (Bool × Tally)
  | [], t => some (false, t)
  | g :: gs, t =>
    match g.run t with
    | none => none
    | some (choice, t) =>
      match t.choice.bind (Tally.link choice) with
      | none => none
      | some t => branch gs t

/-- Alternative parts. The choice between them and their common end are made after the first two. -/
def alt : List Growth → Growth
  | [] => single
  | [g] => g
  | g :: h :: gs => ⟨fun t => do
    let (choice, t) ← g.run t
    let (choice', t) ← h.run t
    let t ← t.state (2 * Tally.choiceSize)
    let t ← t.state 0
    let t ← t.link choice
    let t ← t.link choice'
    branch gs t⟩

/-- More copies of a part behind one whose end is given. -/
def chain (body : Growth) : Nat → Bool → Tally → Option (Bool × Tally)
  | 0, choice, t => some (choice, t)
  | n + 1, choice, t =>
    match body.run t with
    | none => none
    | some (choice', t) =>
      match t.link choice with
      | none => none
      | some t => chain body n choice' t

/-- So many copies of a part. -/
def copies (body : Growth) : Nat → Growth
  | 0 => single
  | n + 1 => ⟨fun t => do
    let (choice, t) ← body.run t
    chain body n choice t⟩

/-- More copies of a part, each of which may be passed over. -/
def optionalChain (body : Growth) : Nat → Bool → Tally → Option (Bool × Tally)
  | 0, choice, t => some (choice, t)
  | n + 1, choice, t =>
    match (t.state (2 * Tally.choiceSize)).bind body.run with
    | none => none
    | some (choice', t) =>
      match t.link choice with
      | none => none
      | some t => optionalChain body n choice' t

/-- A part that may be passed over. -/
def optional (body : Growth) : Growth := ⟨fun t => do
  let t ← t.state (2 * Tally.choiceSize)
  let (choice, t) ← body.run t
  let t ← t.state 0
  return (false, ← t.link choice)⟩

/-- A part that occurs any number of times. One that may read nothing needs a way around it that cannot be taken
over and over. -/
def any (body : Growth) (mayReadNothing : Bool) : Growth :=
  if mayReadNothing then ⟨fun t => do
    let (choice, t) ← body.run t
    let t ← t.state (2 * Tally.choiceSize)
    let t ← t.link choice
    let t ← t.state (2 * Tally.choiceSize)
    return (false, ← t.state 0)⟩
  else ⟨fun t => do
    let t ← t.state Tally.choiceSize
    let (choice, t) ← body.run t
    return (true, ← t.link choice)⟩

/-- A part repeated without an upper limit. -/
def unbounded (body : Growth) (mayReadNothing : Bool) : Nat → Growth
  | 0 => any body mayReadNothing
  | n + 1 => ⟨fun t => do
    let (choice, t) ← (copies body (n + 1)).run t
    let t ← t.state Tally.choiceSize
    return (true, ← t.link choice)⟩

/-- A part repeated with an upper limit. -/
def bounded (body : Growth) (least most : Nat) : Growth :=
  if least = 0 ∧ most = 1 then optional body
  else if most ≤ least then copies body least
  else ⟨fun t => do
    let (choice, t) ← (copies body least).run t
    let t ← t.state 0
    let (choice, t) ← optionalChain body (most - least) choice t
    return (false, ← t.link choice)⟩

/-- A part between the states of a group. -/
def grouped (body : Growth) : Growth := ⟨fun t => do
  let t ← t.state 0
  let (choice, t) ← body.run t
  let t ← t.state 0
  return (false, ← t.link choice)⟩

end Growth

/-! ## Sets -/

/-- A step on a range of bytes to a state. -/
structure Edge where
  first : Nat
  last : Nat
  target : Nat
deriving DecidableEq

/-- Mixes a number into a hash. -/
def mix (hash : UInt64) (n : Nat) : UInt64 := (hash ^^^ UInt64.ofNat n) * 1099511628211

def hashStart : UInt64 := 14695981039346656037

/-- The place of the steps of a state in the cache, which has as many places as given. -/
def placeOf (places : UInt64) (edges : List Edge) : Nat :=
  (edges.foldl (fun hash e => mix (mix (mix hash e.first) e.last) e.target) hashStart % places).toNat

/-- The states that are remembered, each with its steps, by their places. A new state drives out an old one. -/
abbrev Remembered (κ : Type) := Std.HashMap Nat (κ × Nat)

/-- The counting of the states of a set, with the number of the state that its sequences lead to. -/
structure SetTally (κ : Type) where
  tally : Tally
  remembered : Remembered κ
  target : Nat

/-- Makes a state and remembers it at a place; `steps` is the size of its steps. -/
def SetTally.make {κ : Type} (s : SetTally κ) (place : Nat) (key : κ) (steps : Nat) : Option (Nat × SetTally κ) :=
  match s.tally.state steps with
  | some tally => some (s.tally.states, ⟨tally, s.remembered.insert place (key, s.tally.states), s.target⟩)
  | none => none

/-- The state remembered at a place with a key. -/
def SetTally.recall? {κ : Type} [DecidableEq κ] (s : SetTally κ) (place : Nat) (key : κ) : Option Nat :=
  match s.remembered[place]? with
  | some (found, id) => if found = key then some id else none
  | none => none

/-- The state with the given steps, which is made unless it is remembered. -/
def stateWith (edges : List Edge) (s : SetTally (List Edge)) : Option (Nat × SetTally (List Edge)) :=
  let place := placeOf 10000 edges
  match s.recall? place edges with
  | some id => some (id, s)
  | none => s.make place edges (Tally.stepSize * edges.length)

/-- A state on the way of the sequence that has been added last: the steps that are settled, last first, and the
range of the step whose target is still open. -/
structure OpenState where
  settled : List Edge
  range : ByteRange

/-- Settles the states on a way, the last one first, and gives the number of the first. -/
def settle : List OpenState → SetTally (List Edge) → Option (Nat × SetTally (List Edge))
  | [], s => some (s.target, s)
  | o :: rest, s => do
    let (id, s) ← settle rest s
    stateWith ((⟨o.range.1, o.range.2, id⟩ :: o.settled).reverse) s

/-- Adds a sequence behind the way of the one before, with which it shares its beginning. -/
def addSequence : List OpenState → List ByteRange → SetTally (List Edge) →
    Option (List OpenState × SetTally (List Edge))
  | o :: rest, r :: more, s =>
    if o.range = r then do
      let (way, s) ← addSequence rest more s
      return (o :: way, s)
    else do
      let (id, s) ← settle rest s
      let settled := ⟨o.range.1, o.range.2, id⟩ :: o.settled
      return (⟨settled, r⟩ :: more.map fun r => ⟨[], r⟩, s)
  | _, ranges, s => some (ranges.map fun r => ⟨[], r⟩, s)

def addSequences : List (List ByteRange) → List OpenState → SetTally (List Edge) →
    Option (List OpenState × SetTally (List Edge))
  | [], way, s => some (way, s)
  | ranges :: more, way, s =>
    match addSequence way ranges s with
    | none => none
    | some (way, s) => addSequences more way s

/-- The growth for the sequences of a set, read forwards. -/
def forwardSet (sequences : List (List ByteRange)) : Growth := ⟨fun t => do
  let target := t.states
  let t ← t.state 0
  let (way, s) ← addSequences sequences [] ⟨t, {}, target⟩
  let (_, s) ← settle way s
  return (false, s.tally)⟩

/-- The state for a byte range in front of a state. -/
def stateBefore (range : ByteRange) (id : Nat) (s : SetTally Edge) : Option (Nat × SetTally Edge) :=
  let key : Edge := ⟨id, range.1, range.2⟩
  let place := placeOf 1000 [key]
  match s.recall? place key with
  | some id => some (id, s)
  | none => s.make place key 0

def statesBefore : List ByteRange → Nat → SetTally Edge → Option (SetTally Edge)
  | [], _, s => some s
  | range :: more, id, s =>
    match stateBefore range id s with
    | none => none
    | some (id, s) => statesBefore more id s

def addBackward : List (List ByteRange) → SetTally Edge → Option (SetTally Edge)
  | [], s => some s
  | ranges :: more, s =>
    match statesBefore ranges s.target s with
    | none => none
    | some s =>
      match s.tally.choice with
      | none => none
      | some tally => addBackward more { s with tally := tally }

/-- The growth for the sequences of a set, read backwards: a choice between them. -/
def backwardSet (sequences : List (List ByteRange)) : Growth := ⟨fun t => do
  let t ← t.state 0
  let target := t.states
  let t ← t.state 0
  let s ← addBackward sequences ⟨t, {}, target⟩
  return (false, s.tally)⟩

/-- The growth for a set of ASCII characters: a single state with a step for each range, and its end. -/
def asciiSet (ranges : Nat) : Growth := ⟨fun t => do
  let t ← t.state 0
  return (false, ← t.state (Tally.stepSize * ranges))⟩

def growthOfSet (backward : Bool) (set : Text.CharSet) : Growth :=
  if set.ranges.all fun r => r.2 < 0x80 then asciiSet set.ranges.length
  else if backward then backwardSet (byteRangesOfSet set)
  else forwardSet (byteRangesOfSet set)

/-! ## Literals -/

def bytesOf (chars : List Char) : List Nat := chars.flatMap fun c => bytesOfCode c.toNat

/-- The words that follow the first byte, in order. -/
def wordsAfter (b : Nat) (words : List (List Nat)) : List (List Nat) :=
  words.filterMap fun word => match word with
    | first :: rest => if first = b then some rest else none
    | [] => none

/-- Cuts a list of words at the empty ones. Of empty words in front of all others only one counts. -/
def cutAtEnds (words : List (List Nat)) : List (List (List Nat)) :=
  match words with
  | [] :: rest => List.splitOn [] ([] :: rest.dropWhile (·.isEmpty))
  | _ => words.splitOn []

namespace Tally

def zero : Tally := ⟨0, 0⟩

def plus (s t : Tally) : Tally := ⟨s.states + t.states, s.steps + t.steps⟩

def total (ts : List Tally) : Tally := ts.foldl plus zero

end Tally

/-- The states of a tree of words shorter than `depth`. A state of the tree is a choice between the end, for each
word that ends there, and the steps to the words before, between and after these. -/
def treeTally : Nat → List (List Nat) → Tally
  | 0, _ => .zero
  | depth + 1, words =>
    let chunks := cutAtEnds words
    let ofChunk (chunk : List (List Nat)) : Tally :=
      let firsts := (chunk.filterMap List.head?).eraseDups
      let below := firsts.map fun b =>
        let rest := wordsAfter b chunk
        if rest.all (·.isEmpty) then .zero else treeTally depth rest
      let own : Tally :=
        match firsts with
        | [] => .zero
        | [_] => ⟨1, Tally.choiceSize⟩
        | _ => ⟨1, Tally.choiceSize + Tally.stepSize * firsts.length⟩
      (Tally.total below).plus own
    (Tally.total (chunks.map ofChunk)).plus ⟨1, Tally.choiceSize * (chunks.length - 1)⟩

/-- The growth for alternative words, which share their beginnings, or backwards their ends. -/
def growthOfWords (backward : Bool) (words : List (List Nat)) : Growth :=
  let words := if backward then words.map List.reverse else words
  let depth := (words.map List.length).foldl max 0
  let tree := treeTally (depth + 1) words
  ⟨fun t => ((t.plus ⟨1, 0⟩).plus tree).checked.map (false, ·)⟩

/-- The growth for a word, with a state for each byte. -/
def growthOfWord (length : Nat) : Growth := ⟨fun t => (t.plus ⟨length, 0⟩).checked.map (false, ·)⟩

/-! ## Patterns -/

def word? : Pattern → Option (List Nat)
  | .literal chars => some (bytesOf chars)
  | _ => none

mutual

/-- The growth for a pattern. Groups have states of their own only forwards. -/
def growthOf (backward : Bool) : Pattern → Growth
  | .empty => .single
  | .look _ => .single
  | .literal chars => growthOfWord (bytesOf chars).length
  | .oneOf set => growthOfSet backward set
  | .group _ body => if backward then growthOf backward body else (growthOf backward body).grouped
  | .repeated body least most _ =>
    match most with
    | none => (growthOf backward body).unbounded (!(body.shortest?.any fun n => 0 < n)) least
    | some most => (growthOf backward body).bounded least most
  | .seq parts => .seq (growthsOf backward parts)
  | .alt branches =>
    match branches.mapM word? with
    | some words => growthOfWords backward words
    | none => .alt (growthsOf backward branches)

def growthsOf (backward : Bool) : List Pattern → List Growth
  | [] => []
  | p :: ps => growthOf backward p :: growthsOf backward ps

end

/-- What stands in front of the automaton: a loop over any bytes, unless every match is at the beginning. -/
def frontTally (anchored : Bool) : Tally :=
  if anchored then ⟨1, 0⟩ else ⟨3, 2 * Tally.choiceSize + Tally.stepSize⟩

/-- Whether an automaton is within the limit: its front, its states and the final one. -/
def fitsBy (backward : Bool) (p : Pattern) : Bool :=
  let anchored := p.beginsWith (if backward then .textEnd else .textStart)
  let body := growthOf backward p
  let found : Option Tally := do
    let (choice, t) ← (if backward then body else body.grouped).run (frontTally anchored)
    let t ← t.state 0
    t.link choice
  found.isSome

/-- Whether a pattern's automata are within the limit. -/
def fits (p : Pattern) : Bool := fitsBy false p && fitsBy true p.reversed

end Dataflow.Pattern
