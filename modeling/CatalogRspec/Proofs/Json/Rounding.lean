import CatalogRspec.Json.Binary64
import Mathlib.Algebra.Order.Field.Power
import Mathlib.Algebra.Order.Ring.Rat
import Mathlib.Tactic.Linarith
import Mathlib.Tactic.Positivity
import Mathlib.Tactic.FieldSimp
import Mathlib.Tactic.GCongr
import Mathlib.Tactic.Ring

namespace CatalogRspec.Json

theorem scaled_snd_pos (n : Nat) {base : Nat} (hbase : 0 < base) (k : Int) :
    0 < (scaled n base k).2 := by
  unfold scaled
  split
  · exact Nat.one_pos
  · exact Nat.pow_pos hbase

theorem scaled_div (n : Nat) {base : Nat} (hbase : 0 < base) (k : Int) :
    ((scaled n base k).1 : ℚ) / (scaled n base k).2 = n * (base : ℚ) ^ k := by
  have hne : (base : ℚ) ≠ 0 := by positivity
  unfold scaled
  split
  · next h =>
    obtain ⟨j, rfl⟩ := Int.eq_ofNat_of_zero_le h
    simp
  · next h =>
    obtain ⟨j, rfl⟩ : ∃ j : Nat, k = -j := ⟨(-k).toNat, by omega⟩
    simp [zpow_neg, div_eq_mul_inv]

theorem scaled_two_div (n : Nat) (k : Int) :
    ((scaled n 2 k).1 : ℚ) / (scaled n 2 k).2 = n * 2 ^ k := by
  exact_mod_cast scaled_div n (show 0 < 2 by decide) k

theorem scaled_ten_div (n : Nat) (k : Int) :
    ((scaled n 10 k).1 : ℚ) / (scaled n 10 k).2 = n * 10 ^ k := by
  exact_mod_cast scaled_div n (show 0 < 10 by decide) k

attribute [ext] Binary64

namespace Binary64

/-- The significand has 53 bits, or the exponent is the least. Such numbers are equal only if they are
the same. -/
structure IsNormalized (x : Binary64) : Prop where
  significand_lt : x.significand < 2 * leastNormal
  normal : leastNormal ≤ x.significand ∨ x.exponent = minExponent
  minExponent_le : minExponent ≤ x.exponent

/-- A normalized number that is not past the greatest double. -/
structure IsCanonical (x : Binary64) : Prop extends IsNormalized x where
  le_maxExponent : x.exponent ≤ maxExponent

def magnitude (x : Binary64) : ℚ := x.significand * 2 ^ x.exponent

def quarter (x : Binary64) : ℚ := 2 ^ (x.exponent - 2)

/-- Whether the doubles below are nearer together than those above. -/
def endsBinade (x : Binary64) : Bool := x.significand = leastNormal && x.exponent > minExponent

/-- The quarters below which a magnitude reads back to another double. -/
def low (x : Binary64) : Nat :=
  if x.endsBinade then 4 * x.significand - 1 else 4 * x.significand - 2

/-- The magnitudes that are nearest to the double, the ends only for an even significand. -/
def IsNearest (x : Binary64) (q : ℚ) : Prop :=
  if x.significand % 2 = 0 then
    x.low * x.quarter ≤ q ∧ q ≤ (4 * x.significand + 2 : Nat) * x.quarter
  else x.low * x.quarter < q ∧ q < (4 * x.significand + 2 : Nat) * x.quarter

variable {x y : Binary64} {q : ℚ}

theorem quarter_pos (x : Binary64) : 0 < x.quarter := by
  unfold quarter
  positivity

theorem magnitude_eq (x : Binary64) : x.magnitude = (4 * x.significand : Nat) * x.quarter := by
  unfold magnitude quarter
  rw [zpow_sub₀ (by norm_num)]
  push_cast
  ring

theorem isNearest_of_lt (hlow : x.low * x.quarter < q)
    (hhigh : q < (4 * x.significand + 2 : Nat) * x.quarter) : x.IsNearest q := by
  unfold IsNearest
  split
  · exact ⟨hlow.le, hhigh.le⟩
  · exact ⟨hlow, hhigh⟩

theorem IsNearest.le (h : x.IsNearest q) :
    x.low * x.quarter ≤ q ∧ q ≤ (4 * x.significand + 2 : Nat) * x.quarter := by
  unfold IsNearest at h
  split at h
  · exact h
  · exact ⟨h.1.le, h.2.le⟩

theorem cross_le {a b u v n d : Nat} (hv : 0 < v) (hd : 0 < d) :
    a * (u * d) ≤ b * (n * v) ↔ (a : ℚ) * (u / v) ≤ b * (n / d) := by
  rw [mul_div_assoc', mul_div_assoc', div_le_div_iff₀ (by exact_mod_cast hv) (by exact_mod_cast hd),
    mul_assoc, mul_assoc]
  exact_mod_cast Iff.rfl

theorem cross_lt {a b u v n d : Nat} (hv : 0 < v) (hd : 0 < d) :
    a * (u * d) < b * (n * v) ↔ (a : ℚ) * (u / v) < b * (n / d) := by
  rw [mul_div_assoc', mul_div_assoc', div_lt_div_iff₀ (by exact_mod_cast hv) (by exact_mod_cast hd),
    mul_assoc, mul_assoc]
  exact_mod_cast Iff.rfl

/-- What is found on a grid is nearest to the double; nothing is found only if neither neighbour of the
magnitude is. -/
theorem onGrid?_cases {x : Binary64} {scale : Int} {found : Option Nat}
    (h : x.onGrid? scale = found) :
    (∀ k, found = some k → x.IsNearest (k * 10 ^ scale)) ∧
    ∃ below : Nat, below * 10 ^ scale ≤ x.magnitude ∧
      x.magnitude < (below + 1 : Nat) * 10 ^ scale ∧
      (found = none →
        ¬x.IsNearest (below * 10 ^ scale) ∧ ¬x.IsNearest ((below + 1 : Nat) * 10 ^ scale)) := by
  have hquarter := scaled_two_div 1 (x.exponent - 2)
  have hpower := scaled_ten_div 1 scale
  have hv := scaled_snd_pos 1 (show 0 < 2 by decide) (x.exponent - 2)
  have hd := scaled_snd_pos 1 (show 0 < 10 by decide) scale
  rcases hu : scaled 1 2 (x.exponent - 2) with ⟨u, v⟩
  rcases hn : scaled 1 10 scale with ⟨n, d⟩
  rw [hu] at hquarter hv
  rw [hn] at hpower hd
  unfold onGrid? at h
  rw [hu, hn] at h
  dsimp -zeta only at h hquarter hpower hv hd
  extract_lets centre low high unit step below reads gapBelow gapAbove at h
  rw [Nat.cast_one, one_mul] at hquarter hpower
  have hreads (k : Nat) : reads k = true ↔ x.IsNearest (k * 10 ^ scale) := by
    unfold IsNearest quarter
    rw [← hquarter, ← hpower, ← cross_le hv hd, ← cross_le hd hv, ← cross_lt hv hd,
      ← cross_lt hd hv]
    by_cases heven : x.significand % 2 = 0
    · simp only [reads, if_pos heven, Bool.and_eq_true, decide_eq_true_eq]
      rfl
    · simp only [reads, if_neg heven, Bool.and_eq_true, decide_eq_true_eq]
      rfl
  have hstep : 0 < step := by
    have hpos : (0 : ℚ) < n / d := hpower ▸ by positivity
    have hne : n ≠ 0 := by
      rintro rfl
      simp at hpos
    positivity
  have hmagnitude : x.magnitude = centre * ((u : ℚ) / v) := by
    rw [magnitude_eq, quarter, hquarter]
  have hbelow : below * 10 ^ scale ≤ x.magnitude := by
    rw [hmagnitude, ← hpower, ← cross_le hd hv]
    exact Nat.div_mul_le_self _ _
  have habove : x.magnitude < (below + 1 : Nat) * 10 ^ scale := by
    rw [hmagnitude, ← hpower, ← cross_lt hv hd, Nat.mul_comm (below + 1)]
    exact Nat.lt_mul_div_succ _ hstep
  refine ⟨fun k hk => (hreads k).mp ?_, below, hbelow, habove, fun hnone => ?_⟩
  · subst hk
    split at h
    · next hfound => exact Option.some.inj h ▸ (Bool.and_eq_true_iff.mp hfound).1
    · split at h
      · next hfound => exact Option.some.inj h ▸ hfound
      · cases h
  · subst hnone
    rw [← hreads, ← hreads]
    split at h
    · cases h
    · next hnot =>
      split at h
      · cases h
      · next hnext =>
        -- Without its neighbour above, the one below needs no other reason.
        exact ⟨fun hfound => hnot (by simp [hfound, hnext]), hnext⟩

theorem cast_low (h : x.significand ≠ 0) :
    (x.low : ℚ) = 4 * x.significand - if x.endsBinade then 1 else 2 := by
  unfold low
  split
  · rw [Nat.cast_sub (by omega)]
    push_cast
    rfl
  · rw [Nat.cast_sub (by omega)]
    push_cast
    rfl

/-- A grid that is finer than the last place has a number that is nearest to the double; twice as fine
where doubles below are nearer together. -/
theorem isNearest_of_fine {step : ℚ} (hx : x.significand ≠ 0)
    (hstep : step < (if x.endsBinade then 2 else 4) * x.quarter) {below : Nat}
    (hbelow : below * step ≤ x.magnitude) (habove : x.magnitude < (below + 1 : Nat) * step) :
    x.IsNearest (below * step) ∨ x.IsNearest ((below + 1 : Nat) * step) := by
  have hquarter := x.quarter_pos
  have hlow := cast_low hx
  have hcentre := x.magnitude_eq
  push_cast at habove hcentre
  -- The number above stays below the end above, unless the one below is near.
  have hnextNearest (hnear : step < x.magnitude - below * step + 2 * x.quarter) :
      x.IsNearest ((below + 1 : Nat) * step) := by
    have hlowMagnitude : x.low * x.quarter ≤ x.magnitude := by
      rw [hlow, hcentre]
      gcongr
      split <;> linarith
    refine isNearest_of_lt ?_ ?_
    · push_cast
      linarith
    · push_cast
      linarith
  by_cases hends : x.endsBinade = true
  · rw [if_pos hends] at hstep
    exact .inr (hnextNearest (by linarith))
  · rw [if_neg hends] at hstep hlow
    by_cases hnear : x.magnitude - below * step < 2 * x.quarter
    · refine .inl (isNearest_of_lt ?_ ?_)
      · rw [hlow]
        linarith
      · push_cast
        linarith
    · exact .inr (hnextNearest (by linarith))

def Precedes (x y : Binary64) : Prop :=
  x.exponent < y.exponent ∨ x.exponent = y.exponent ∧ x.significand < y.significand

/-- A greater double is at least a place away, and what is nearest to it begins no nearer than halfway;
both are counted in places of the smaller one, of which `2 ^ d` make one of the greater. -/
theorem exists_gap (hx : x.IsNormalized) (hy : y.IsNormalized) (h : x.Precedes y) :
    ∃ d : Nat, y.quarter = 2 ^ d * x.quarter ∧ x.significand + 1 ≤ y.significand * 2 ^ d ∧
      2 * x.significand + 2 * (y.significand * 2 ^ d) ≤ y.low * 2 ^ d := by
  have hxlt := hx.significand_lt
  rcases h with hexponent | ⟨hexponent, hsignificand⟩
  -- Only significands at the least exponent can be smaller, and `x` is below that of `y`.
  · have hnormal : leastNormal ≤ y.significand := by
      rcases hy.normal with hnormal | hleast
      · exact hnormal
      · have := hx.minExponent_le
        omega
    have hlow : 2 * leastNormal - 1 + 2 * y.significand ≤ y.low := by
      unfold low endsBinade
      split
      · next hends =>
        rw [Bool.and_eq_true, decide_eq_true_eq] at hends
        omega
      · next hends =>
        have := hx.minExponent_le
        rw [Bool.and_eq_true, decide_eq_true_eq, decide_eq_true_eq, not_and] at hends
        omega
    obtain ⟨d, hd⟩ : ∃ d : Nat, y.exponent = x.exponent + (d + 1 : Nat) :=
      ⟨(y.exponent - x.exponent - 1).toNat, by omega⟩
    have hpow : 2 ≤ 2 ^ (d + 1) := Nat.le_self_pow (by omega) 2
    refine ⟨d + 1, ?_, ?_, ?_⟩
    · unfold quarter
      rw [hd, ← zpow_natCast, ← zpow_add₀ (by norm_num)]
      congr 1
      omega
    · calc x.significand + 1 ≤ leastNormal * 2 := by omega
        _ ≤ y.significand * 2 ^ (d + 1) := Nat.mul_le_mul hnormal hpow
    · have hscaled := Nat.mul_le_mul_right (2 ^ (d + 1)) hlow
      rw [Nat.add_mul, Nat.mul_assoc] at hscaled
      have hfirst : (2 * leastNormal - 1) * 2 ≤ (2 * leastNormal - 1) * 2 ^ (d + 1) :=
        Nat.mul_le_mul_left _ hpow
      omega
  · refine ⟨0, by simp [quarter, hexponent], by omega, ?_⟩
    unfold low
    split <;> omega

/-- What is nearest to a double ends before what is nearest to a greater one begins. Where both have a
common end, one of the significands is odd. -/
theorem not_isNearest_of_precedes (hx : x.IsNormalized) (hy : y.IsNormalized) (h : x.Precedes y)
    (hq : x.IsNearest q) : ¬y.IsNearest q := by
  intro hq'
  obtain ⟨d, hquarter, hplace, hhalf⟩ := exists_gap hx hy h
  have hpos := x.quarter_pos
  have hends : ((4 * x.significand + 2 : Nat) : ℚ) * x.quarter ≤ y.low * y.quarter := by
    rw [hquarter, ← mul_assoc]
    gcongr
    exact_mod_cast (by omega : 4 * x.significand + 2 ≤ y.low * 2 ^ d)
  have hqx := hq.le.2
  have hqy := hq'.le.1
  -- A number nearest to both would be where the one ends and the other begins.
  have heq : 4 * x.significand + 2 = y.low * 2 ^ d := by
    have : ((4 * x.significand + 2 : Nat) : ℚ) * x.quarter = (y.low * 2 ^ d : Nat) * x.quarter := by
      rw [Nat.cast_mul, Nat.cast_pow, mul_assoc, Nat.cast_ofNat, ← hquarter]
      linarith
    exact_mod_cast mul_right_cancel₀ hpos.ne' this
  have hodd : x.significand % 2 = 1 ∨ y.significand % 2 = 1 := by
    have hnext : x.significand + 1 = y.significand * 2 ^ d := by omega
    cases d with
    | zero => omega
    | succ d =>
      rw [Nat.pow_succ, ← Nat.mul_assoc] at hnext
      omega
  rcases hodd with hodd | hodd
  · unfold IsNearest at hq
    rw [if_neg (by omega)] at hq
    linarith [hq.2]
  · unfold IsNearest at hq'
    rw [if_neg (by omega)] at hq'
    linarith [hq'.1]

/-- No number is nearest to two doubles. -/
theorem eq_of_isNearest (hx : x.IsNormalized) (hy : y.IsNormalized)
    (hsign : x.negative = y.negative) (hqx : x.IsNearest q) (hqy : y.IsNearest q) : x = y := by
  have hnot : ¬x.Precedes y ∧ ¬y.Precedes x :=
    ⟨fun h => not_isNearest_of_precedes hx hy h hqx hqy,
      fun h => not_isNearest_of_precedes hy hx h hqy hqx⟩
  unfold Precedes at hnot
  have hexponent : x.exponent = y.exponent := by omega
  have hsignificand : x.significand = y.significand := by omega
  exact Binary64.ext hsign hsignificand hexponent

end Binary64

end CatalogRspec.Json
