/-!
Sets of characters as ranges of code points.

Tables of character properties and the classes of patterns are both kept this way. Any list of ranges denotes a
set; `normalize` gives the one with ascending ranges that neither overlap nor touch, and on such sets the other
operations are single passes.

The code points of the surrogates are no characters. A range may run across them, and a range that ends or begins
beside them is followed or preceded by a range on their other side.
-/

namespace Dataflow.Text

/-- A set of characters: the code points in any of the ranges, ends included. -/
structure CharSet where
  ranges : List (Nat × Nat)
deriving DecidableEq, Inhabited

namespace CharSet

def containsCode (s : CharSet) (code : Nat) : Bool :=
  s.ranges.any fun r => Nat.ble r.1 code && Nat.ble code r.2

def contains (s : CharSet) (c : Char) : Bool := s.containsCode c.toNat

def empty : CharSet := ⟨[]⟩

def single (c : Char) : CharSet := ⟨[(c.toNat, c.toNat)]⟩

def range (first last : Char) : CharSet := ⟨[(first.toNat, last.toNat)]⟩

/-- The last code point. -/
def lastCode : Nat := 0x10FFFF

def all : CharSet := ⟨[(0, lastCode)]⟩

/-- The character after one. -/
def next (code : Nat) : Nat := if code = 0xD7FF then 0xE000 else code + 1

/-- The character before one. -/
def previous (code : Nat) : Nat := if code = 0xE000 then 0xD7FF else code - 1

/-! ## Set operations -/

/-- Puts a range in front of ascending ranges, joined with those it overlaps or touches. -/
def joinRange (r : Nat × Nat) : List (Nat × Nat) → List (Nat × Nat)
  | [] => [r]
  | next :: rest => if next.1 ≤ r.2 + 1 then joinRange (r.1, max r.2 next.2) rest else r :: next :: rest

/-- The same set with ascending, separate ranges. -/
def normalize (s : CharSet) : CharSet :=
  let ascending := (s.ranges.filter fun r => decide (r.1 ≤ r.2)).mergeSort fun a b => decide (a.1 ≤ b.1)
  ⟨ascending.foldr joinRange []⟩

def union (s t : CharSet) : CharSet := normalize ⟨s.ranges ++ t.ranges⟩

def unions (sets : List CharSet) : CharSet := normalize ⟨sets.flatMap (·.ranges)⟩

/-- What lies after the range `r`, outside the ascending ranges that follow it. Where nothing but the surrogates
lies between two ranges, the characters beside them stand in for the gap. -/
def gapsAfter (r : Nat × Nat) : List (Nat × Nat) → List (Nat × Nat)
  | [] => if r.2 < lastCode then [(next r.2, lastCode)] else []
  | following :: rest =>
    let first := next r.2
    let last := previous following.1
    (min first last, max first last) :: gapsAfter following rest

/-- The characters outside a normalized set. -/
def complement (s : CharSet) : CharSet :=
  match s.ranges with
  | [] => all
  | r :: rest => ⟨(if 0 < r.1 then [(0, previous r.1)] else []) ++ gapsAfter r rest⟩

/-- The common parts of ascending ranges. -/
def interRanges : List (Nat × Nat) → List (Nat × Nat) → List (Nat × Nat)
  | [], _ => []
  | _, [] => []
  | a :: as, b :: bs =>
    let rest := if a.2 < b.2 then interRanges as (b :: bs) else interRanges (a :: as) bs
    if max a.1 b.1 ≤ min a.2 b.2 then (max a.1 b.1, min a.2 b.2) :: rest else rest
termination_by as bs => as.length + bs.length

/-- The common part of two normalized sets. -/
def inter (s t : CharSet) : CharSet := ⟨interRanges s.ranges t.ranges⟩

/-- What is left of ascending ranges without others. -/
def diffRanges : List (Nat × Nat) → List (Nat × Nat) → List (Nat × Nat)
  | [], _ => []
  | as, [] => as
  | a :: as, b :: bs =>
    if b.2 < a.1 then diffRanges (a :: as) bs
    else if a.2 < b.1 then a :: diffRanges as (b :: bs)
    else
      let before := if a.1 < b.1 then [(a.1, previous b.1)] else []
      before ++ (if b.2 < a.2 then diffRanges ((next b.2, a.2) :: as) bs else diffRanges as (b :: bs))
termination_by as bs => as.length + bs.length

/-- The part of one normalized set outside another. -/
def diff (s t : CharSet) : CharSet := ⟨diffRanges s.ranges t.ranges⟩

/-- The characters in exactly one of two normalized sets. -/
def symmDiff (s t : CharSet) : CharSet := diff (union s t) (inter s t)

end CharSet

end Dataflow.Text
