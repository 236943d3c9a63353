import Dataflow.Text.CharSet
/-!
Patterns in normal form.

A pattern is built with the functions below, which keep it small: sequences and alternatives are flat, literals
next to each other are one literal, alternatives that are single characters are one set, a beginning that all
alternatives share stands in front of them, and what matches only the empty text is not repeated. What a pattern
matches does not depend on this form, but the size of its automaton does, and with it whether it is accepted.
-/

namespace Dataflow

/-- Conditions on a place between characters. -/
inductive Look where
  | textStart
  | textEnd
  | lineStart
  | lineEnd
  /-- Line ends where a line break may be `\r`, `\n` or both together. -/
  | anyLineStart
  | anyLineEnd
  | wordBoundary (ascii : Bool)
  | noWordBoundary (ascii : Bool)
  | wordStart (ascii : Bool)
  | wordEnd (ascii : Bool)
  | wordStartHalf (ascii : Bool)
  | wordEndHalf (ascii : Bool)
deriving DecidableEq

inductive Pattern where
  | empty
  | look (condition : Look)
  /-- Characters one after the other, at least one. -/
  | literal (chars : List Char)
  /-- One character of a set. No character is in the empty set, so it never matches. -/
  | oneOf (set : Text.CharSet)
  /-- A group with its number, which sets it apart from every other. -/
  | group (number : Nat) (body : Pattern)
  /-- At least `least` times, and at most `most` times if that is given. A greedy repetition prefers more. -/
  | repeated (body : Pattern) (least : Nat) (most : Option Nat) (greedy : Bool)
  | seq (parts : List Pattern)
  | alt (branches : List Pattern)
deriving Inhabited

namespace Pattern

open Text (CharSet)

/-! ## What can be read off a pattern -/

mutual

/-- Whether two patterns are built alike. -/
def same : Pattern → Pattern → Bool
  | .empty, .empty => true
  | .look a, .look b => a == b
  | .literal a, .literal b => a == b
  | .oneOf a, .oneOf b => a == b
  | .group m p, .group n q => m == n && same p q
  | .repeated p least most greedy, .repeated q least' most' greedy' =>
    least == least' && most == most' && greedy == greedy' && same p q
  | .seq ps, .seq qs => sameAll ps qs
  | .alt ps, .alt qs => sameAll ps qs
  | _, _ => false

def sameAll : List Pattern → List Pattern → Bool
  | [], [] => true
  | p :: ps, q :: qs => same p q && sameAll ps qs
  | _, _ => false

end

mutual

/-- A length that every match has at least, unless some part of the pattern can never match. -/
def shortest? : Pattern → Option Nat
  | .empty | .look _ => some 0
  | .literal chars => some chars.length
  | .oneOf set => if set.ranges.isEmpty then none else some 1
  | .group _ body => shortest? body
  | .repeated body least _ _ => (shortest? body).map (least * ·)
  | .seq parts => shortestSeq? parts
  | .alt branches => shortestAlt? branches

def shortestSeq? : List Pattern → Option Nat
  | [] => some 0
  | p :: ps =>
    match shortest? p, shortestSeq? ps with
    | some a, some b => some (a + b)
    | _, _ => none

def shortestAlt? : List Pattern → Option Nat
  | [] => none
  | [p] => shortest? p
  | p :: ps =>
    match shortest? p, shortestAlt? ps with
    | some a, some b => some (min a b)
    | _, _ => none

end

mutual

/-- Whether the pattern can match no text but the empty one. -/
def readsNothing : Pattern → Bool
  | .empty | .look _ => true
  | .literal _ | .oneOf _ => false
  | .group _ body => readsNothing body
  | .repeated body _ _ _ => readsNothing body
  | .seq parts => allReadNothing parts
  | .alt branches => allReadNothing branches

def allReadNothing : List Pattern → Bool
  | [] => true
  | p :: ps => readsNothing p && allReadNothing ps

end

mutual

/-- Whether every match begins with a check of the given condition. -/
def beginsWith (condition : Look) : Pattern → Bool
  | .look found => found == condition
  | .empty | .literal _ | .oneOf _ => false
  | .group _ body => beginsWith condition body
  | .repeated body least _ _ => decide (0 < least) && beginsWith condition body
  | .seq parts => seqBeginsWith condition parts
  | .alt branches => allBeginWith condition branches

/-- The parts of a sequence up to the first that reads a character are all at its beginning. -/
def seqBeginsWith (condition : Look) : List Pattern → Bool
  | [] => false
  | p :: ps => beginsWith condition p || readsNothing p && seqBeginsWith condition ps

def allBeginWith (condition : Look) : List Pattern → Bool
  | [] => true
  | p :: ps => beginsWith condition p && allBeginWith condition ps

end

mutual

/-- The pattern with the parts of every sequence in the opposite order. -/
def reversed : Pattern → Pattern
  | .group number body => .group number (reversed body)
  | .repeated body least most greedy => .repeated (reversed body) least most greedy
  | .seq parts => .seq (allReversed parts).reverse
  | .alt branches => .alt (allReversed branches)
  | p => p

def allReversed : List Pattern → List Pattern
  | [] => []
  | p :: ps => reversed p :: allReversed ps

end

mutual

/-- The number of nodes of the pattern. -/
def nodes : Pattern → Nat
  | .group _ body => nodes body + 1
  | .repeated body _ _ _ => nodes body + 1
  | .seq parts => nodesOfAll parts + 1
  | .alt branches => nodesOfAll branches + 1
  | _ => 1

def nodesOfAll : List Pattern → Nat
  | [] => 0
  | p :: ps => nodes p + nodesOfAll ps

end

/-! ## Building patterns -/

/-- One character of a set; a set of one character is a literal. -/
def ofSet (set : CharSet) : Pattern :=
  match set.ranges with
  | [(first, last)] => if first = last then .literal [Char.ofNat first] else .oneOf set
  | _ => .oneOf set

/-- A pattern that never matches. -/
def never : Pattern := .oneOf .empty

/-- The parts that a pattern adds to a sequence around it. -/
def partsOf : Pattern → List Pattern
  | .empty => []
  | .seq parts => parts
  | p => [p]

/-- Puts a part in front of others, joined with the first of them if both are literals. -/
def joinPart (p : Pattern) (ps : List Pattern) : List Pattern :=
  match p, ps with
  | .literal a, .literal b :: rest => .literal (a ++ b) :: rest
  | _, _ => p :: ps

/-- One pattern after the other. -/
def ofSeq (parts : List Pattern) : Pattern :=
  match (parts.flatMap partsOf).foldr joinPart [] with
  | [] => .empty
  | [p] => p
  | ps => .seq ps

/-- The branches that a pattern adds to alternatives around it. -/
def branchesOf : Pattern → List Pattern
  | .alt branches => branches
  | p => [p]

/-- The range of a literal of one character. -/
def charRange? : Pattern → Option (Nat × Nat)
  | .literal [c] => some (c.toNat, c.toNat)
  | _ => none

def setRanges? : Pattern → Option (List (Nat × Nat))
  | .oneOf set => some set.ranges
  | _ => none

/-- The one set that alternatives come to if all of them are single characters, or all of them are sets. -/
def commonSet? (branches : List Pattern) : Option CharSet :=
  match branches.mapM charRange? with
  | some ranges => some (CharSet.normalize ⟨ranges⟩)
  | none => (branches.mapM setRanges?).map fun ranges => CharSet.normalize ⟨ranges.flatten⟩

/-- The beginning that two lists of parts share. -/
def commonParts : List Pattern → List Pattern → List Pattern
  | p :: ps, q :: qs => if same p q then p :: commonParts ps qs else []
  | _, _ => []

def seqParts? : Pattern → Option (List Pattern)
  | .seq parts => some parts
  | _ => none

/-- The beginning that all branches share, and what is left of each; they must all be sequences. -/
def sharedBeginning? (branches : List Pattern) : Option (List Pattern × List (List Pattern)) :=
  match branches.mapM seqParts? with
  | some (first :: rest) =>
    let shared := rest.foldl commonParts first
    if shared.isEmpty then none else some (shared, (first :: rest).map (·.drop shared.length))
  | _ => none

/-- Alternatives. What is left of them after a beginning they share may share a beginning again, up to `depth`
times. -/
def ofAltUpTo : Nat → List Pattern → Pattern
  | depth, patterns =>
    match patterns.flatMap branchesOf with
    | [] => never
    | [p] => p
    | branches =>
      match commonSet? branches with
      | some set => ofSet set
      | none =>
        match depth, sharedBeginning? branches with
        | depth + 1, some (shared, rests) => ofSeq (shared ++ [ofAltUpTo depth (rests.map ofSeq)])
        | _, _ => .alt branches

/-- Alternatives. Each shared beginning takes nodes away, so their number is deep enough. -/
def ofAlt (patterns : List Pattern) : Pattern := ofAltUpTo (nodesOfAll patterns) patterns

/-- A pattern repeated. What reads nothing is not repeated more than once, and what may not occur at all, or
occurs exactly once, is no repetition. -/
def ofRepeated (body : Pattern) (least : Nat) (most : Option Nat) (greedy : Bool) : Pattern :=
  let (least, most) := if readsNothing body then (min least 1, some (min (most.getD 1) 1)) else (least, most)
  if least = 0 ∧ most = some 0 then .empty
  else if least = 1 ∧ most = some 1 then body
  else .repeated body least most greedy

end Pattern

end Dataflow
