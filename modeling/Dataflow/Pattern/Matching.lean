import Dataflow.Pattern.Basic
import Dataflow.Pattern.Classes
/-!
The search for a match.

A pattern is matched against a whole text by moving marks through it, one character at a time. A mark on a leaf
says that some match attempt has just read a character there. Since attempts may begin anywhere, the start of the
pattern is entered before every character, and the text has a match as soon as a mark can reach the pattern's end
without reading more. The time is the length of the text times the size of the pattern, whatever the pattern.

The tree of leaves is binary, with repetitions written out. Long sequences and many copies are halved again and
again, so that a large pattern makes no deep tree.
-/

namespace Dataflow.Pattern

open Text (CharSet)

/-! ## Places -/

/-- A place between two characters, or at an end of the text. -/
structure Place where
  before : Option Char
  after : Option Char

def isWordAt (ascii : Bool) (c : Option Char) : Bool :=
  match c with
  | none => false
  | some c => (if ascii then asciiWordSet else wordSet).contains c

/-- Whether a condition holds at a place. -/
def Place.satisfies (place : Place) : Look → Bool
  | .textStart => place.before.isNone
  | .textEnd => place.after.isNone
  | .lineStart => place.before.isNone || place.before == some '\n'
  | .lineEnd => place.after.isNone || place.after == some '\n'
  | .anyLineStart =>
    place.before.isNone || place.before == some '\n' || place.before == some '\r' && place.after != some '\n'
  | .anyLineEnd =>
    place.after.isNone || place.after == some '\r' || place.after == some '\n' && place.before != some '\r'
  | .wordBoundary ascii => isWordAt ascii place.before != isWordAt ascii place.after
  | .noWordBoundary ascii => isWordAt ascii place.before == isWordAt ascii place.after
  | .wordStart ascii => !isWordAt ascii place.before && isWordAt ascii place.after
  | .wordEnd ascii => isWordAt ascii place.before && !isWordAt ascii place.after
  | .wordStartHalf ascii => !isWordAt ascii place.before
  | .wordEndHalf ascii => !isWordAt ascii place.after

/-! ## Marks -/

/-- A pattern with a mark on some of its leaves. -/
inductive Marked where
  | empty
  | look (condition : Look)
  | oneOf (set : CharSet) (marked : Bool)
  | seq (p q : Marked)
  | alt (p q : Marked)
  | star (p : Marked)
deriving Inhabited

namespace Marked

/-- Whether nothing is matched here, at this place, by reading nothing. -/
def nullable (place : Place) : Marked → Bool
  | .empty => true
  | .look condition => place.satisfies condition
  | .oneOf _ _ => false
  | .seq p q => nullable place p && nullable place q
  | .alt p q => nullable place p || nullable place q
  | .star _ => true

/-- Whether some mark reaches the end without reading. -/
def reached (place : Place) : Marked → Bool
  | .empty => false
  | .look _ => false
  | .oneOf _ marked => marked
  | .seq p q => reached place p && nullable place q || reached place q
  | .alt p q => reached place p || reached place q
  | .star p => reached place p

/-- Reads the character after the place. The start is entered if `enter` is set. -/
def advance (place : Place) (c : Char) : Bool → Marked → Marked
  | _, .empty => .empty
  | _, .look condition => .look condition
  | enter, .oneOf set _ => .oneOf set (enter && set.contains c)
  | enter, .seq p q =>
    .seq (advance place c enter p) (advance place c (enter && nullable place p || reached place p) q)
  | enter, .alt p q => .alt (advance place c enter p) (advance place c enter q)
  | enter, .star p => .star (advance place c (enter || reached place p) p)

/-- Whether a match ends at this place. -/
def endsAt (place : Place) (p : Marked) : Bool := nullable place p || reached place p

/-- Whether a match ends in the rest of a text, `before` being the character read last. -/
def searchFrom (before : Option Char) (p : Marked) : List Char → Bool
  | [] => p.endsAt ⟨before, none⟩
  | c :: rest =>
    p.endsAt ⟨before, some c⟩ || searchFrom (some c) (p.advance ⟨before, some c⟩ c true) rest

/-! ## Balanced trees -/

/-- Joins neighbours. -/
def joinPairs (join : Marked → Marked → Marked) : List Marked → List Marked
  | p :: q :: rest => join p q :: joinPairs join rest
  | ps => ps

/-- Joins all into one by joining neighbours, at most `rounds` times. -/
def joinAll (join : Marked → Marked → Marked) (unit : Marked) : Nat → List Marked → Marked
  | _, [] => unit
  | _, [p] => p
  | 0, ps => ps.foldr join unit
  | rounds + 1, ps => joinAll join unit rounds (joinPairs join ps)

def seqAll (ps : List Marked) : Marked := joinAll .seq .empty ps.length ps

/-- The leaf that matches no character. -/
def never : Marked := .oneOf .empty false

def altAll (ps : List Marked) : Marked := joinAll .alt never ps.length ps

/-- So many copies one after the other. -/
def copies (p : Marked) (n : Nat) : Marked :=
  if n = 0 then .empty
  else if n = 1 then p
  else
    let half := copies p (n / 2)
    if n % 2 = 0 then .seq half half else .seq p (.seq half half)
termination_by n

end Marked

/-! ## Patterns -/

mutual

/-- A pattern without marks. -/
def unmarked : Pattern → Marked
  | .empty => .empty
  | .look condition => .look condition
  | .literal chars => Marked.seqAll (chars.map fun c => .oneOf (.single c) false)
  | .oneOf set => .oneOf set false
  | .group _ body => unmarked body
  | .repeated body least most _ =>
    let p := unmarked body
    match most with
    | some most => .seq (p.copies least) (Marked.copies (.alt p .empty) (most - least))
    | none => .seq (p.copies least) (.star p)
  | .seq parts => Marked.seqAll (unmarkedAll parts)
  | .alt branches => Marked.altAll (unmarkedAll branches)

def unmarkedAll : List Pattern → List Marked
  | [] => []
  | p :: ps => unmarked p :: unmarkedAll ps

end

/-- Whether the pattern matches somewhere in a text. -/
def search (p : Pattern) (text : List Char) : Bool := (unmarked p).searchFrom none text

end Dataflow.Pattern
