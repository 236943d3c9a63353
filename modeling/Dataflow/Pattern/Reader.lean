import Dataflow.Pattern.Automaton
import Dataflow.Pattern.Bracket
import Dataflow.Pattern.Matching
/-!
The notation of patterns.

The notation has literals, `.`, classes in brackets with set operations, escapes, groups, alternatives, counted
and uncounted repetitions, anchors and flags. It has no look-around and no references to groups, which could not
be matched in linear time. Flags hold from where they stand to the end of the group around them. The depth of the
nesting and the size of the automaton are bounded.
-/

namespace Dataflow.Pattern

open Text (CharSet)

/-! ## Pieces -/

/-- A pattern that has been read, with the depth of its nesting. -/
structure Piece where
  pattern : Pattern
  depth : Nat
  /-- A change of flags stands in a sequence but cannot be repeated. -/
  repeatable : Bool := true

def depthLimit : Nat := 250

/-- A character that stands for itself, or for all its cases. -/
def charPiece (c : Char) (byte : Bool) : Reading Piece := do
  let flags := (← get).flags
  if !flags.unicode ∧ byte ∧ 0x80 ≤ c.toNat then throw .notAscii
  return ⟨ofSet (foldBy flags (.single c)), 0, true⟩

def lookPiece (condition : Look) : Piece := ⟨.look condition, 0, true⟩

def escapePiece : Reading Piece := do
  match ← escape with
  | .char c byte => charPiece c byte
  | .set s => return ⟨ofSet s, 0, true⟩
  | .look condition => return lookPiece condition

/-- Any character, or any but a line break. -/
def dotPiece : Reading Piece := do
  let flags := (← get).flags
  if !flags.unicode then throw .notAscii
  let breaks : CharSet :=
    if flags.dotMatchesAll then .empty
    else if flags.anyLineBreak then ⟨[(0xA, 0xA), (0xD, 0xD)]⟩
    else ⟨[(0xA, 0xA)]⟩
  return ⟨.oneOf breaks.complement, 0, true⟩

/-- Pieces one after the other, last first. Several nest one level deeper than one. -/
def concatPieces : List Piece → Piece
  | [] => ⟨.empty, 0, true⟩
  | [p] => p
  | pieces => ⟨ofSeq (pieces.map (·.pattern)).reverse, 1 + (pieces.map (·.depth)).foldl max 0, true⟩

/-- Alternative pieces, last first. -/
def alternatives : List Piece → Piece
  | [] => ⟨.empty, 0, true⟩
  | [p] => p
  | pieces => ⟨ofAlt (pieces.map (·.pattern)).reverse, 1 + (pieces.map (·.depth)).foldl max 0, true⟩

/-- A piece repeated at least `least` times, and at most `most` times if that is given. -/
def repeatPiece (piece : Piece) (least : Nat) (most : Option Nat) (greedy : Bool) : Reading Piece := do
  if !piece.repeatable then throw .nothingToRepeat
  return ⟨ofRepeated piece.pattern least most (greedy != (← get).flags.lazy), piece.depth + 1, true⟩

/-- Takes the mark that turns a repetition around: one that takes as much as it can into one that takes as little
as it can. The answer is whether the mark is missing. -/
def greedyMark : Reading Bool := return !(← takeIf "?")

/-! ## Counts -/

/-- Digits, with blanks around them and in a verbose pattern among them; at most `limit`. -/
def digits : Nat → List Char → Reading (List Char)
  | 0, seen => pure seen.reverse
  | limit + 1, seen => do
    match ← peek? with
    | some c =>
      if c.isDigit then
        let _ ← takeSkipping .badCount
        digits limit (c :: seen)
      else pure seen.reverse
    | none => pure seen.reverse

def skipBlanks : Reading Unit := modify fun s => { s with rest := s.rest.dropWhile Text.isBlank }

/-- A number of a count. -/
def countNumber : Reading Nat := do
  skipBlanks
  let found ← digits (← get).length []
  skipBlanks
  skipVerbose
  let n := digitsValue found
  if found.isEmpty ∨ 0x100000000 ≤ n then throw .badCount
  return n

/-- The count of a repetition, after its brace, and whether it takes as much as it can. -/
def count : Reading (Nat × Option Nat × Bool) := do
  skipVerbose
  let least ← countNumber
  let most ←
    if ← takeIf "," then
      skipVerbose
      if (← peek?) = some '\x7d' then pure none else some <$> countNumber
    else pure (some least)
  if (← takeSkipping .badCount) ≠ '\x7d' then throw .badCount
  let greedy ← greedyMark
  if (most.map fun most => decide (most < least)).getD false then throw .badCount
  return (least, most, greedy)

/-! ## Groups -/

def setFlag (on : Bool) (flags : Flags) : Char → Option Flags
  | 'i' => some { flags with ignoreCase := on }
  | 'm' => some { flags with multiLine := on }
  | 's' => some { flags with dotMatchesAll := on }
  | 'R' => some { flags with anyLineBreak := on }
  | 'u' => some { flags with unicode := on }
  | 'x' => some { flags with verbose := on }
  | 'U' => some { flags with lazy := on }
  | _ => none

/-- Flags up to a colon or a parenthesis, which is taken and given back. No flag comes twice, and there is one
after a hyphen. -/
def flagList : Nat → List Char → Bool → Flags → Reading (Flags × Char × Bool)
  | 0, _, _, _ => throw .badFlags
  | limit + 1, seen, on, flags => do
    let c ← take .badFlags
    if c = ':' ∨ c = ')' then
      if seen.head? = some '-' then throw .badFlags
      return (flags, c, seen.isEmpty)
    if c ∈ seen then throw .badFlags
    if c = '-' then flagList limit (c :: seen) false flags
    else match setFlag on flags c with
      | some flags => flagList limit (c :: seen) on flags
      | none => throw .badFlags

/-- The name of a group, after its opening bracket. -/
def groupName : Reading Unit := do
  let s ← get
  let name := s.rest.takeWhile (· != '>')
  match s.rest.dropWhile (· != '>'), name with
  | _ :: rest, first :: more =>
    if !nameStartSet.contains first ∨ !more.all nameSet.contains ∨ String.ofList name ∈ s.names then
      throw .badGroupName
    set { s with rest := rest, names := String.ofList name :: s.names }
  | _, _ => throw .badGroupName

/-- How a group begins. -/
inductive Opening where
  /-- A change of flags for what follows. -/
  | change (flags : Flags)
  | group (flags : Flags) (number : Option Nat)

/-- The beginning of a group, after its parenthesis. -/
def opening : Reading Opening := do
  skipVerbose
  let flags := (← get).flags
  for mark in ["?=", "?!", "?<=", "?<!"] do
    if ← takeIf mark then throw .lookAround
  let numbered : Reading Opening := do
    let s ← get
    set { s with groups := s.groups + 1 }
    return .group flags (some (s.groups + 1))
  if ← takeIf "?P<" then
    groupName
    numbered
  else if ← takeIf "?<" then
    groupName
    numbered
  else if ← takeIf "?" then
    let (changed, mark, bare) ← flagList ((← get).length + 1) [] true flags
    if mark = ')' then
      if bare then throw .nothingToRepeat
      return .change changed
    return .group changed none
  else numbered

/-! ## Whole patterns -/

/-- What has been read of the group around a group. -/
structure Outer where
  branches : List Piece
  items : List Piece
  flags : Flags
  /-- The number of the group itself, if it has one. -/
  number : Option Nat

/-- Reads to the end of the pattern. `branches` and `items` are the alternatives and the parts read so far of the
innermost group, last first, and `outer` has the groups around it. -/
def patternFrom : Nat → List Piece → List Piece → List Outer → Reading Piece
  | 0, _, _, _ => throw .unexpectedEnd
  | limit + 1, branches, items, outer => do
    skipVerbose
    let s ← get
    match s.rest with
    | [] =>
      if !outer.isEmpty then throw .groupNotClosed
      return alternatives (concatPieces items :: branches)
    | c :: rest =>
      let advanced : ReadState := { s with rest := rest }
      let add (piece : Piece) : Reading Piece := patternFrom limit branches (piece :: items) outer
      let repeated (least : Nat) (most : Option Nat) (greedy : Bool) : Reading Piece := do
        match items with
        | [] => throw .nothingToRepeat
        | piece :: items =>
          let piece ← repeatPiece piece least most greedy
          patternFrom limit branches (piece :: items) outer
      match c with
      | '(' =>
        set advanced
        match ← opening with
        | .change flags =>
          modify fun s => { s with flags := flags }
          add ⟨.empty, 0, false⟩
        | .group flags number =>
          modify fun s => { s with flags := flags }
          patternFrom limit [] [] (⟨branches, items, s.flags, number⟩ :: outer)
      | ')' =>
        match outer with
        | [] => throw .groupNotOpened
        | o :: outer =>
          set { advanced with flags := o.flags }
          let inner := alternatives (concatPieces items :: branches)
          let pattern := match o.number with
            | some number => .group number inner.pattern
            | none => inner.pattern
          patternFrom limit o.branches (⟨pattern, inner.depth + 1, true⟩ :: o.items) outer
      | '|' =>
        set advanced
        patternFrom limit (concatPieces items :: branches) [] outer
      | '[' =>
        set advanced
        let found ← classFrom (s.length + 1) (← openClass) []
        add ⟨ofSet found.set, found.depth, true⟩
      | '?' =>
        set advanced
        repeated 0 (some 1) (← greedyMark)
      | '*' =>
        set advanced
        repeated 0 none (← greedyMark)
      | '+' =>
        set advanced
        repeated 1 none (← greedyMark)
      | '\x7b' =>
        if items.isEmpty then throw .nothingToRepeat
        set advanced
        let (least, most, greedy) ← count
        repeated least most greedy
      | '\\' => set advanced; add (← escapePiece)
      | '.' => set advanced; add (← dotPiece)
      | '^' =>
        set advanced
        add (lookPiece (if s.flags.multiLine then (if s.flags.anyLineBreak then .anyLineStart else .lineStart)
          else .textStart))
      | '$' =>
        set advanced
        add (lookPiece (if s.flags.multiLine then (if s.flags.anyLineBreak then .anyLineEnd else .lineEnd)
          else .textEnd))
      | c => set advanced; add (← charPiece c false)

/-- The pattern that a text denotes; `ignoreCase` sets the flag of that name from the start. -/
def read (ignoreCase : Bool) (text : String) : Except PatternError Pattern := do
  let chars := text.toList
  let start : ReadState := ⟨chars, chars.length, { ignoreCase := ignoreCase }, 0, []⟩
  let (piece, _) ← (patternFrom (chars.length + 1) [] [] []).run start
  if depthLimit < piece.depth then throw .tooDeep
  if !piece.pattern.fits then throw .tooLarge
  return piece.pattern

end Dataflow.Pattern
