import CatalogRspec.Unicode.RangeSet

namespace CatalogRspec.Pattern

open Unicode

/-- The code points whose encodings have the same length, without surrogates. -/
def encodingBounds : List (Nat × Nat) :=
  [(0, 0x7F), (0x80, 0x7FF), (0x800, 0xD7FF), (0xE000, 0xFFFF), (0x10000, RangeSet.top)]

def overlap? (r s : Nat × Nat) : Option (Nat × Nat) :=
  let first := max r.1 s.1
  let last := min r.2 s.2
  if first ≤ last then some (first, last) else none

/-- Splits a range where it covers a block of the given size only in part. -/
def splitBlocks (size : Nat) (r : Nat × Nat) : List (Nat × Nat) :=
  let low := r.1 / size
  let high := r.2 / size
  if low = high then [r]
  else
    let head := if r.1 % size = 0 then [] else [(r.1, low * size + size - 1)]
    let tail := if r.2 % size = size - 1 then [] else [(high * size, r.2)]
    let start := if r.1 % size = 0 then r.1 else (low + 1) * size
    let stop := if r.2 % size = size - 1 then r.2 else high * size - 1
    head ++ (if start ≤ stop then [(start, stop)] else []) ++ tail

/-- Ranges in which the bytes of the encodings vary independently, in ascending order. -/
def encodedRanges (r : Nat × Nat) : List (Nat × Nat) :=
  (encodingBounds.filterMap (overlap? r)).flatMap fun s =>
    if s.2 < 0x80 then [s]
    else ((splitBlocks 0x40 s).flatMap (splitBlocks 0x1000)).flatMap (splitBlocks 0x40000)

def encodingOf (n : Nat) : List Nat :=
  if n < 0x80 then [n]
  else if n < 0x800 then [0xC0 + n / 0x40, 0x80 + n % 0x40]
  else if n < 0x10000 then [0xE0 + n / 0x1000, 0x80 + n / 0x40 % 0x40, 0x80 + n % 0x40]
  else [0xF0 + n / 0x40000, 0x80 + n / 0x1000 % 0x40, 0x80 + n / 0x40 % 0x40, 0x80 + n % 0x40]

abbrev ByteRange := Nat × Nat

/-- The encodings of a set: a range for each byte of the characters that are encoded alike. -/
def byteRanges (s : RangeSet) : List (List ByteRange) :=
  (s.flatMap encodedRanges).map fun r => (encodingOf r.1).zip (encodingOf r.2)

end CatalogRspec.Pattern
