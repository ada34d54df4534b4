namespace CatalogRspec.Unicode

/-- A set of code points as inclusive ranges, in ascending order and with gaps between them. -/
abbrev RangeSet := List (Nat × Nat)

namespace RangeSet

/-- The greatest code point. -/
def top : Nat := 0x10FFFF

def all : RangeSet := [(0, top)]

def contains (s : RangeSet) (n : Nat) : Bool := s.any fun r => r.1 ≤ n && n ≤ r.2

/-- Joins each range to the one before it if no code point lies between. -/
def joinFrom (first last : Nat) : List (Nat × Nat) → RangeSet
  | [] => [(first, last)]
  | (a, b) :: rest =>
    if a ≤ last + 1 then joinFrom first (max last b) rest else (first, last) :: joinFrom a b rest

def ofRanges (rs : List (Nat × Nat)) : RangeSet :=
  match rs.mergeSort (fun r s => r.1 ≤ s.1) with
  | [] => []
  | (a, b) :: rest => joinFrom a b rest

def union (s t : RangeSet) : RangeSet := ofRanges (s ++ t)

def gapsFrom (start : Nat) : RangeSet → RangeSet
  | [] => if start ≤ top then [(start, top)] else []
  | (a, b) :: rest => if start < a then (start, a - 1) :: gapsFrom (b + 1) rest else gapsFrom (b + 1) rest

def complement (s : RangeSet) : RangeSet := gapsFrom 0 s

def inter (s t : RangeSet) : RangeSet := complement (union (complement s) (complement t))

def diff (s t : RangeSet) : RangeSet := inter s (complement t)

def symmDiff (s t : RangeSet) : RangeSet := union (diff s t) (diff t s)

end RangeSet

end CatalogRspec.Unicode
