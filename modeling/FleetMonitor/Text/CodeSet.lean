import FleetMonitor.Text.Packed

/-!
# Sets of code points

A set of code points as its maximal ranges, ascending.  Surrogates are no
characters: a complement holds none at its ends.
-/

set_option autoImplicit false

namespace FleetMonitor.Text

structure CodeRange where
  low : Nat
  high : Nat
deriving DecidableEq, Repr, Inhabited

structure CodeSet where
  ranges : List CodeRange
deriving DecidableEq, Repr, Inhabited

namespace CodeSet

def empty : CodeSet := ⟨[]⟩

def isEmpty (set : CodeSet) : Bool :=
  set.ranges.isEmpty

def all : CodeSet := ⟨[⟨0, 0x10FFFF⟩]⟩

def range (low high : Nat) : CodeSet := ⟨[⟨low, high⟩]⟩

def single (c : Char) : CodeSet := range c.toNat c.toNat

def anyHolds (n : Nat) : List CodeRange → Bool
  | [] => false
  | range :: rest => if n < range.low then false else n ≤ range.high || anyHolds n rest

def holds (set : CodeSet) (n : Nat) : Bool :=
  anyHolds n set.ranges

def contains (set : CodeSet) (c : Char) : Bool :=
  set.holds c.toNat

def only? (set : CodeSet) : Option Nat :=
  match set.ranges with
  | [range] => if range.low = range.high then some range.low else none
  | _ => none

def isAscii (set : CodeSet) : Bool :=
  set.ranges.all (·.high < 128)

/-- Ranges that ascend by their low ends, with those that touch joined; `range` is
the one that may still grow. -/
def joinedFrom (range : CodeRange) : List CodeRange → List CodeRange
  | [] => [range]
  | next :: rest =>
      if next.low ≤ range.high + 1 then
        joinedFrom ⟨range.low, max range.high next.high⟩ rest
      else range :: joinedFrom next rest

def joined : List CodeRange → List CodeRange
  | [] => []
  | range :: rest => joinedFrom range rest

def ofRanges (ranges : List CodeRange) : CodeSet :=
  ⟨joined (ranges.mergeSort fun a b => a.low ≤ b.low)⟩

def union (left right : CodeSet) : CodeSet :=
  ofRanges (left.ranges ++ right.ranges)

def unionAll (sets : List CodeSet) : CodeSet :=
  ofRanges (sets.flatMap (·.ranges))

def after (n : Nat) : Nat :=
  if n = 0xD7FF then 0xE000 else n + 1

def before (n : Nat) : Nat :=
  if n = 0xE000 then 0xD7FF else n - 1

def gaps : Nat → List CodeRange → List CodeRange
  | next, [] => if next ≤ 0x10FFFF then [⟨next, 0x10FFFF⟩] else []
  | next, range :: rest =>
      if next < range.low && next ≤ before range.low then
        ⟨next, before range.low⟩ :: gaps (after range.high) rest
      else gaps (after range.high) rest

def complement (set : CodeSet) : CodeSet :=
  ⟨gaps 0 set.ranges⟩

def common : List CodeRange → List CodeRange → List CodeRange
  | [], _ => []
  | _, [] => []
  | a :: as, b :: bs =>
      let low := max a.low b.low
      let high := min a.high b.high
      let rest := if a.high < b.high then common as (b :: bs) else common (a :: as) bs
      if low ≤ high then ⟨low, high⟩ :: rest else rest
termination_by as bs => as.length + bs.length

def inter (left right : CodeSet) : CodeSet :=
  ⟨common left.ranges right.ranges⟩

def diff (left right : CodeSet) : CodeSet :=
  left.inter right.complement

def symmDiff (left right : CodeSet) : CodeSet :=
  (left.union right).diff (left.inter right)

/-- Ranges from pairs of numbers: how far a range lies from what came before, and by
how much its high end exceeds its low one. -/
def readRanges : Nat → List Nat → List CodeRange
  | next, gap :: length :: rest =>
      let low := next + gap
      ⟨low, low + length⟩ :: readRanges (low + length + 2) rest
  | _, _ => []

def ofPacked (s : String) : CodeSet :=
  ⟨readRanges 0 (Packed.numbers s)⟩

def ofPieces (pieces : List String) : CodeSet :=
  ofPacked (String.join pieces)

end CodeSet

end FleetMonitor.Text
