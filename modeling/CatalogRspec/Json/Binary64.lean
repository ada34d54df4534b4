namespace CatalogRspec.Json

/-- The finite double `±significand · 2 ^ exponent`. -/
structure Binary64 where
  negative : Bool
  significand : Nat
  exponent : Int
deriving Repr, DecidableEq

/-- A decimal number `digits · 10 ^ scale`. -/
structure Decimal where
  digits : Nat
  scale : Int
deriving Repr, DecidableEq

/-- `n · base ^ k` as a quotient of natural numbers. -/
def scaled (n base : Nat) (k : Int) : Nat × Nat :=
  if k ≥ 0 then (n * Nat.pow base k.toNat, 1) else (n, Nat.pow base (-k).toNat)

/-- The integer nearest to `a / b`, the even one if two are equally near. -/
def roundHalfEven (a b : Nat) : Nat :=
  let q := a / b
  let r := a % b
  if 2 * r < b then q else if 2 * r > b then q + 1 else if q % 2 = 0 then q else q + 1

namespace Binary64

/-- The least significand of 53 bits; only doubles with the least exponent have a smaller one. -/
def leastNormal : Nat := 0x10000000000000

def minExponent : Int := -1074

def maxExponent : Int := 971

def zero (negative : Bool) : Binary64 := ⟨negative, 0, minExponent⟩

/--
The exponent that leaves `a / b` a significand of 53 bits, or the least exponent if that is greater.
The quotient lies between `2 ^ 52` and `2 ^ 54` times the first guess.
-/
def exponentFor (a b : Nat) : Int :=
  let e : Int := Int.ofNat a.log2 - Int.ofNat b.log2 - 53
  let (n, d) := scaled a 2 (-e)
  max minExponent (if n ≥ 2 * leastNormal * d * b then e + 1 else e)

/-- The double nearest to `a / b`, ties to the even significand; `none` past the greatest. -/
def nearest? (negative : Bool) (a b : Nat) : Option Binary64 :=
  if a = 0 then some (zero negative)
  else
    let e := exponentFor a b
    let (n, d) := scaled a 2 (-e)
    let m := roundHalfEven n (d * b)
    let (m, e) := if m = 2 * leastNormal then (leastNormal, e + 1) else (m, e)
    if e > maxExponent then none else some ⟨negative, m, e⟩

def ofDecimal? (negative : Bool) (x : Decimal) : Option Binary64 :=
  let length : Int := Int.ofNat x.digits.repr.length
  if x.digits = 0 then some (zero negative)
  else if x.scale > 310 then none
  else if x.scale + length < -330 then some (zero negative)
  else
    let (a, b) := scaled x.digits 10 x.scale
    nearest? negative a b

def mul? (x y : Binary64) : Option Binary64 :=
  let (a, b) := scaled (x.significand * y.significand) 2 (x.exponent + y.exponent)
  nearest? (x.negative != y.negative) a b

def div? (x y : Binary64) : Option Binary64 :=
  let (a, b) := scaled x.significand 2 (x.exponent - y.exponent)
  nearest? (x.negative != y.negative) a (b * y.significand)

/-- The powers of ten that a double can stand for. -/
def maxPower : Nat := 308

def pow10? (k : Nat) : Option Binary64 :=
  if k ≤ maxPower then nearest? false (Nat.pow 10 k) 1 else none

def shiftUp? (x : Binary64) (places : Nat) : Option Binary64 :=
  if x.significand = 0 then some x
  else do
    let power ← pow10? places
    x.mul? power

/-- One division if the power of ten is a double, and else one for each part of it. -/
def shiftDown? (x : Binary64) (places : Nat) : Option Binary64 :=
  if x.significand = 0 then some x
  else if _h : places ≤ maxPower then do
    let power ← pow10? places
    x.div? power
  else do
    let power ← pow10? maxPower
    let y ← x.div? power
    y.shiftDown? (places - maxPower)
termination_by places
decreasing_by
  have : 0 < maxPower := by decide
  omega

/-- A decimal by arithmetic on doubles. Every step rounds, so this may miss the nearest double, and
overflow where there is one. -/
def approximate? (negative : Bool) (x : Decimal) : Option Binary64 := do
  let digits ← nearest? false x.digits 1
  let y ← if x.scale ≥ 0 then digits.shiftUp? x.scale.toNat else digits.shiftDown? (-x.scale).toNat
  return { y with negative := negative }

def atLeastPow10 (x : Binary64) (k : Int) : Bool :=
  let (a, b) := scaled x.significand 2 x.exponent
  let (n, d) := scaled 1 10 k
  n * b ≤ a * d

/-- The decimal exponent of the first digit of a magnitude that is not zero. -/
def leadingExponent (x : Binary64) : Int :=
  let guess := (Int.ofNat x.significand.log2 + x.exponent) * 30103 / 100000
  if x.atLeastPow10 (guess + 1) then guess + 1
  else if x.atLeastPow10 guess then guess
  else guess - 1

/--
The multiple of `10 ^ scale` next to the magnitude that reads back to it, if there is one. The
magnitudes that read back form an interval about `4 · significand`, in units of a quarter of the
last place; its ends belong to it if the significand is even.
-/
def onGrid? (x : Binary64) (scale : Int) : Option Nat :=
  let centre := 4 * x.significand
  let low :=
    if x.significand = leastNormal && x.exponent > minExponent then centre - 1 else centre - 2
  let high := centre + 2
  let (u, v) := scaled 1 2 (x.exponent - 2)
  let (n, d) := scaled 1 10 scale
  let unit := u * d
  let step := n * v
  let below := centre * unit / step
  let reads (k : Nat) : Bool :=
    if x.significand % 2 = 0 then low * unit ≤ k * step && k * step ≤ high * unit
    else low * unit < k * step && k * step < high * unit
  let gapBelow := centre * unit - below * step
  let gapAbove := (below + 1) * step - centre * unit
  if reads below && (!reads (below + 1) || gapBelow < gapAbove ||
      (gapBelow == gapAbove && below % 2 == 0)) then some below
  else if reads (below + 1) then some (below + 1)
  else none

/-- The decimal of the fewest digits that reads back to the magnitude, and of these the nearest. -/
def shortest (x : Binary64) : Decimal :=
  let scales := (List.range 17).map fun k => x.leadingExponent - Int.ofNat k
  match scales.findSome? fun s => (x.onGrid? s).map (Decimal.mk · s) with
  | some d => d
  | none => ⟨x.significand, x.exponent⟩

end Binary64

end CatalogRspec.Json
