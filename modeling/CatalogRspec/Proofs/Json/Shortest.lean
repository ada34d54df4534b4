import CatalogRspec.Proofs.Json.Rounding

namespace CatalogRspec.Json.Binary64

variable {x : Binary64}

theorem atLeastPow10_iff (x : Binary64) (k : Int) :
    x.atLeastPow10 k = true ↔ (10 : ℚ) ^ k ≤ x.magnitude := by
  have hmagnitude := scaled_two_div x.significand x.exponent
  have hpower := scaled_ten_div 1 k
  have hb := scaled_snd_pos x.significand (show 0 < 2 by decide) x.exponent
  have hd := scaled_snd_pos 1 (show 0 < 10 by decide) k
  rw [Nat.cast_one, one_mul] at hpower
  unfold atLeastPow10
  rw [decide_eq_true_eq, magnitude, ← hpower, ← hmagnitude,
    div_le_div_iff₀ (by exact_mod_cast hd) (by exact_mod_cast hb)]
  exact_mod_cast Iff.rfl

/-- One comparison of powers gives all with a smaller ratio of the exponents. -/
theorem pow_le_pow_of_ratio {a b p q n k : Nat} (hb : 0 < b) (hp : p ≠ 0) (hpow : a ^ p ≤ b ^ q)
    (h : q * n ≤ p * k) : a ^ n ≤ b ^ k := by
  refine (Nat.pow_le_pow_iff_left hp).mp ?_
  calc (a ^ n) ^ p = (a ^ p) ^ n := by rw [← pow_mul, ← pow_mul, mul_comm]
    _ ≤ (b ^ q) ^ n := Nat.pow_le_pow_left hpow n
    _ = b ^ (q * n) := (pow_mul b q n).symm
    _ ≤ b ^ (p * k) := Nat.pow_le_pow_right hb h
    _ = (b ^ k) ^ p := by rw [← pow_mul, mul_comm]

def leadGuess (binary : Int) : Int := binary * 30103 / 100000

/-- The guess is too great by one at most, as far as the exponents of doubles go: there `59 / 196` and
`28 / 93` are near enough to the ratio that the guess is made with. -/
theorem pow_leadGuess_le {binary : Int} (hlow : -1074 ≤ binary) (hhigh : binary < 1024) :
    (10 : ℚ) ^ (leadGuess binary - 1) ≤ 2 ^ binary := by
  unfold leadGuess
  -- Powers of natural numbers are compared, so the signs of both exponents matter.
  rcases le_total 0 (binary * 30103 / 100000 - 1) with hlead | hlead
  · obtain ⟨n, hn⟩ := Int.eq_ofNat_of_zero_le hlead
    obtain ⟨k, rfl⟩ := Int.eq_ofNat_of_zero_le (show 0 ≤ binary by omega)
    have hpow : 10 ^ n ≤ 2 ^ k :=
      pow_le_pow_of_ratio (p := 59) (q := 196) (by decide) (by decide) (by decide) (by omega)
    rw [hn, zpow_natCast, zpow_natCast]
    exact_mod_cast hpow
  · rcases le_total 0 binary with hbinary | hbinary
    · exact (zpow_le_one_of_nonpos₀ (by norm_num) hlead).trans (one_le_zpow₀ (by norm_num) hbinary)
    · obtain ⟨n, hn⟩ : ∃ n : Nat, binary * 30103 / 100000 - 1 = -n :=
        ⟨(-(binary * 30103 / 100000 - 1)).toNat, by omega⟩
      obtain ⟨k, hk⟩ : ∃ k : Nat, binary = -k := ⟨(-binary).toNat, by omega⟩
      have hpow : 2 ^ k ≤ 10 ^ n :=
        pow_le_pow_of_ratio (p := 93) (q := 28) (by decide) (by decide) (by decide) (by omega)
      rw [hn, hk, zpow_neg, zpow_neg, zpow_natCast, zpow_natCast]
      exact inv_anti₀ (by positivity) (by exact_mod_cast hpow)

theorem pow_leadingExponent_le (hx : x.IsCanonical) (hzero : x.significand ≠ 0) :
    (10 : ℚ) ^ x.leadingExponent ≤ x.magnitude := by
  have hlog : (2 : ℚ) ^ (Int.ofNat x.significand.log2 + x.exponent) ≤ x.magnitude := by
    rw [magnitude, zpow_add₀ (by norm_num), Int.ofNat_eq_natCast, zpow_natCast]
    gcongr
    exact_mod_cast Nat.log2_self_le hzero
  have hlt : x.significand.log2 < 53 := (Nat.log2_lt hzero).mpr hx.significand_lt
  have hmin := hx.minExponent_le
  have hmax := hx.le_maxExponent
  unfold minExponent at hmin
  unfold maxExponent at hmax
  unfold leadingExponent
  extract_lets guess
  split
  · next h => exact (x.atLeastPow10_iff _).mp h
  · split
    · next h => exact (x.atLeastPow10_iff _).mp h
    · refine (pow_leadGuess_le ?_ ?_).trans hlog
      · simp only [Int.ofNat_eq_natCast]
        omega
      · simp only [Int.ofNat_eq_natCast]
        omega

theorem pow_seventeen_lt (hx : x.IsCanonical) (hzero : x.significand ≠ 0) :
    (10 : ℚ) ^ (x.leadingExponent - 16) < (if x.endsBinade then 2 else 4) * x.quarter := by
  have hle := pow_leadingExponent_le hx hzero
  have hquarter := x.quarter_pos
  have hpow : (10 : ℚ) ^ (x.leadingExponent - 16) * 10 ^ 16 = 10 ^ x.leadingExponent := by
    rw [← zpow_natCast (n := 16), ← zpow_add₀ (by norm_num)]
    congr 1
    omega
  rw [magnitude_eq] at hle
  have hdigits : ((4 * x.significand : Nat) : ℚ) < (if x.endsBinade then 2 else 4) * 10 ^ 16 := by
    have hlt := hx.significand_lt
    unfold leastNormal at hlt
    split
    -- The first of a binade has `2 ^ 54` quarters; any other has less than twice as many.
    · next hends =>
      have hleast := (Bool.and_eq_true_iff.mp hends).1
      rw [decide_eq_true_eq] at hleast
      rw [hleast, leastNormal]
      norm_num
    · exact_mod_cast (by omega : 4 * x.significand < 4 * 10 ^ 16)
  have hlt : (10 : ℚ) ^ (x.leadingExponent - 16) * 10 ^ 16 <
      (if x.endsBinade then 2 else 4) * x.quarter * 10 ^ 16 := by
    rw [hpow]
    calc (10 : ℚ) ^ x.leadingExponent ≤ (4 * x.significand : Nat) * x.quarter := hle
      _ < (if x.endsBinade then 2 else 4) * 10 ^ 16 * x.quarter := by gcongr
      _ = (if x.endsBinade then 2 else 4) * x.quarter * 10 ^ 16 := by ring
  exact lt_of_mul_lt_mul_right hlt (by positivity)

/-- One of the grids down to seventeen digits has a number for the double, and the first that has is
taken. -/
theorem isNearest_shortest (hx : x.IsCanonical) (hzero : x.significand ≠ 0) :
    x.IsNearest (x.shortest.digits * 10 ^ x.shortest.scale) := by
  unfold shortest
  extract_lets scales
  split
  · next d hfound =>
    obtain ⟨scale, -, hscale⟩ := List.exists_of_findSome?_eq_some hfound
    obtain ⟨k, hk, rfl⟩ := Option.map_eq_some_iff.mp hscale
    exact (onGrid?_cases hk).1 k rfl
  · next hnone =>
    have hlast : x.leadingExponent - 16 ∈ scales := List.mem_map.mpr ⟨16, by simp, rfl⟩
    have hgrid : x.onGrid? (x.leadingExponent - 16) = none :=
      Option.map_eq_none_iff.mp (List.findSome?_eq_none_iff.mp hnone _ hlast)
    obtain ⟨below, hbelow, habove, hnot⟩ := (onGrid?_cases hgrid).2
    have hnear := isNearest_of_fine hzero (pow_seventeen_lt hx hzero) hbelow habove
    exact absurd hnear (not_or.mpr (hnot rfl))

end CatalogRspec.Json.Binary64
