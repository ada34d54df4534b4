import CatalogRspec.Unicode.Casing

namespace CatalogRspec.Unicode

theorem lowerChar_of_ascii {c : Char} (h : c.toNat < 128) : lowerChar c = [c.toLower] := by
  have hall : ∀ n < 128, lowerChar (Char.ofNat n) = [(Char.ofNat n).toLower] := by decide +kernel
  simpa using hall c.toNat h

theorem lowerFrom_of_ascii (before : List Char) {s : List Char} (h : ∀ c ∈ s, c.toNat < 128) :
    lowerFrom before s = s.map Char.toLower := by
  induction s generalizing before with
  | nil => rfl
  | cons c s ih =>
    have hc := h c List.mem_cons_self
    have hsigma : c ≠ capitalSigma := by
      rintro rfl
      exact absurd hc (by decide)
    rw [lowerFrom, if_neg hsigma, lowerChar_of_ascii hc, List.map_cons,
      ih (c :: before) fun d hd => h d (List.mem_cons_of_mem c hd)]
    rfl

theorem toList_lowercase_of_ascii {s : String} (h : ∀ c ∈ s.toList, c.toNat < 128) :
    (lowercase s).toList = s.toList.map Char.toLower := by
  rw [lowercase, String.toList_ofList, lowerFrom_of_ascii [] h]

namespace CaseRun

def lowest (r : CaseRun) : Nat := (r.first + r.shift).toNat

def highest (r : CaseRun) : Nat := (r.last + r.shift).toNat

/-- Whether the run does not lead into the other one: it ends before or begins behind it, or both
hold only every other code point and take turns. -/
def leadsPast (r q : CaseRun) : Bool :=
  r.highest.blt q.first || q.last.blt r.lowest ||
    ((r.step.beq 2 || r.first.beq r.last) && q.step.beq 2 && !(r.lowest % 2).beq (q.first % 2))

/-- Whether the run leads to characters other than the two that are mapped apart. -/
def leadsToPlain (r : CaseRun) : Bool :=
  decide (0 ≤ r.first + r.shift) &&
    (r.highest.blt 0xD800 || Nat.blt 0xDFFF r.lowest && r.highest.blt 0x110000) &&
    (r.highest.blt 0x130 || Nat.blt 0x130 r.lowest) &&
    (r.highest.blt 0x3A3 || Nat.blt 0x3A3 r.lowest)

end CaseRun

/-- No mapping leads to a character that has a mapping itself. -/
theorem leads_of_mem_lowercaseRuns : ∀ r ∈ lowercaseRuns,
    r.leadsToPlain = true ∧ lowercaseRuns.all r.leadsPast = true := by
  decide +kernel

theorem CaseRun.contains_iff (r : CaseRun) (n : Nat) :
    r.contains n = true ↔ r.first ≤ n ∧ n ≤ r.last ∧ (n - r.first) % r.step = 0 := by
  simp [CaseRun.contains, and_assoc]

section Run

variable {r : CaseRun} {n : Nat}

theorem not_contains_of_leadsPast {q : CaseRun} (hpast : r.leadsPast q = true)
    (hplain : r.leadsToPlain = true) (hn : r.contains n = true) :
    q.contains (n + r.shift).toNat = false := by
  simp only [CaseRun.leadsPast, CaseRun.leadsToPlain, CaseRun.lowest, CaseRun.highest,
    CaseRun.contains_iff, Bool.or_eq_true, Bool.and_eq_true, Nat.blt_eq, Nat.beq_eq,
    Bool.not_eq_true', decide_eq_true_eq] at hpast hplain hn
  rw [Bool.eq_false_iff, ne_eq, CaseRun.contains_iff]
  rintro ⟨hlow, hhigh, hstep⟩
  rcases hpast with (hbefore | hbehind) | ⟨⟨hsecond, htwo⟩, hturns⟩
  · omega
  · omega
  · have hparity := Nat.ne_of_beq_eq_false hturns
    rw [htwo] at hstep
    rcases hsecond with hr | hsingle
    · rw [hr] at hn
      omega
    · omega

theorem plain_of_leadsToPlain (hplain : r.leadsToPlain = true) (hn : r.contains n = true) :
    (Char.ofNat (n + r.shift).toNat).toNat = (n + r.shift).toNat ∧
      (n + r.shift).toNat ≠ 0x130 ∧ (n + r.shift).toNat ≠ 0x3A3 := by
  simp only [CaseRun.leadsToPlain, CaseRun.lowest, CaseRun.highest, CaseRun.contains_iff,
    Bool.or_eq_true, Bool.and_eq_true, Nat.blt_eq, decide_eq_true_eq] at hplain hn
  have hvalid : (n + r.shift).toNat.isValidChar := by
    unfold Nat.isValidChar
    omega
  refine ⟨?_, by omega, by omega⟩
  rw [Char.ofNat, dif_pos hvalid]
  rfl

end Run

/-- A character that lower-casing leaves alone wherever it stands. -/
def Settled (c : Char) : Prop := c ≠ capitalSigma ∧ lowerChar c = [c]

instance (c : Char) : Decidable (Settled c) :=
  inferInstanceAs (Decidable (c ≠ capitalSigma ∧ lowerChar c = [c]))

theorem settled_of_contains {r : CaseRun} {n : Nat} (hr : r ∈ lowercaseRuns)
    (hn : r.contains n = true) : Settled (Char.ofNat (n + r.shift).toNat) := by
  obtain ⟨hplain, hpast⟩ := leads_of_mem_lowercaseRuns r hr
  obtain ⟨hchar, hdot, hsigma⟩ := plain_of_leadsToPlain hplain hn
  have hnone : lowercaseRuns.find? (·.contains (n + r.shift).toNat) = none := by
    rw [List.find?_eq_none]
    intro q hq
    rw [not_contains_of_leadsPast (List.all_eq_true.mp hpast q hq) hplain hn]
    exact Bool.false_ne_true
  constructor
  · intro hc
    rw [hc] at hchar
    exact hsigma hchar.symm
  · rw [lowerChar, hchar, if_neg hdot, shiftBy, hnone]

theorem settled_of_mem_lowerChar {c d : Char} (hc : c ≠ capitalSigma) (hd : d ∈ lowerChar c) :
    Settled d := by
  by_cases hi : c.toNat = 0x130
  · have hdot : ∀ d ∈ ['i', Char.ofNat 0x307], Settled d := by decide +kernel
    rw [lowerChar, if_pos hi] at hd
    exact hdot d hd
  · cases hfind : lowercaseRuns.find? (·.contains c.toNat) with
    | none =>
      have hkept : lowerChar c = [c] := by
        rw [lowerChar, if_neg hi, shiftBy, hfind, Char.ofNat_toNat]
      rw [hkept, List.mem_singleton] at hd
      exact hd ▸ ⟨hc, hkept⟩
    | some r =>
      have hcontains : r.contains c.toNat = true := (List.find?_eq_some_iff_append.mp hfind).1
      rw [lowerChar, if_neg hi, shiftBy, hfind, List.mem_singleton] at hd
      exact hd ▸ settled_of_contains (List.mem_of_find?_eq_some hfind) hcontains

theorem settled_lowerSigma (before after : List Char) : Settled (lowerSigma before after) := by
  have hsigmas : Settled (Char.ofNat 0x3C2) ∧ Settled (Char.ofNat 0x3C3) := by decide +kernel
  unfold lowerSigma
  split
  · exact hsigmas.1
  · exact hsigmas.2

theorem settled_of_mem_lowerFrom {before s : List Char} {d : Char} (hd : d ∈ lowerFrom before s) :
    Settled d := by
  induction s generalizing before with
  | nil => cases hd
  | cons c s ih =>
    rw [lowerFrom, List.mem_append] at hd
    rcases hd with hd | hd
    · by_cases hc : c = capitalSigma
      · rw [if_pos hc, List.mem_singleton] at hd
        exact hd ▸ settled_lowerSigma before s
      · rw [if_neg hc] at hd
        exact settled_of_mem_lowerChar hc hd
    · exact ih hd

theorem lowerFrom_of_settled (before : List Char) {s : List Char} (h : ∀ c ∈ s, Settled c) :
    lowerFrom before s = s := by
  induction s generalizing before with
  | nil => rfl
  | cons c s ih =>
    obtain ⟨hsigma, hkept⟩ := h c List.mem_cons_self
    have hrest := ih (c :: before) fun d hd => h d (List.mem_cons_of_mem c hd)
    rw [lowerFrom, if_neg hsigma, hkept, hrest, List.singleton_append]

/-- No text is left to lower-case a second time, wherever its capital sigmas stood. -/
theorem lowercase_lowercase (s : String) : lowercase (lowercase s) = lowercase s := by
  have hsettled : ∀ c ∈ (lowercase s).toList, Settled c := by
    intro c hc
    rw [lowercase, String.toList_ofList] at hc
    exact settled_of_mem_lowerFrom hc
  rw [lowercase, lowerFrom_of_settled [] hsettled, String.ofList_toList]

theorem lowest_of_mem_lowercaseRuns : ∀ r ∈ lowercaseRuns, 0x60 < r.lowest := by
  decide +kernel

theorem eq_of_mem_lowerChar {c d : Char} (hd : d ∈ lowerChar c) (hlow : d.toNat ≤ 0x60) : c = d := by
  by_cases hi : c.toNat = 0x130
  · have hdot : ∀ d ∈ ['i', Char.ofNat 0x307], 0x60 < d.toNat := by decide +kernel
    rw [lowerChar, if_pos hi] at hd
    exact absurd (hdot d hd) (Nat.not_lt.mpr hlow)
  · cases hfind : lowercaseRuns.find? (·.contains c.toNat) with
    | none =>
      rw [lowerChar, if_neg hi, shiftBy, hfind, Char.ofNat_toNat, List.mem_singleton] at hd
      exact hd.symm
    | some r =>
      have hr := List.mem_of_find?_eq_some hfind
      have hcontains : r.contains c.toNat = true := (List.find?_eq_some_iff_append.mp hfind).1
      have hchar := (plain_of_leadsToPlain (leads_of_mem_lowercaseRuns r hr).1 hcontains).1
      have hlowest := lowest_of_mem_lowercaseRuns r hr
      have hfirst := ((r.contains_iff _).mp hcontains).1
      rw [lowerChar, if_neg hi, shiftBy, hfind, List.mem_singleton] at hd
      rw [hd, hchar] at hlow
      unfold CaseRun.lowest at hlowest
      omega

/-- A character before the small letters that has no small letter, such as a mark or a digit. -/
def IsLowMark (c : Char) : Prop := c.toNat ≤ 0x60 ∧ Settled c

instance (c : Char) : Decidable (IsLowMark c) :=
  inferInstanceAs (Decidable (c.toNat ≤ 0x60 ∧ Settled c))

/-- Lower-casing keeps such a mark in its place, and writes none for anything else. -/
theorem lowerFrom_cons_cases (before : List Char) (c : Char) (s : List Char) :
    (IsLowMark c ∧ lowerFrom before (c :: s) = c :: lowerFrom (c :: before) s) ∨
    (¬IsLowMark c ∧ ∃ p, p ≠ [] ∧ (∀ d ∈ p, ¬IsLowMark d) ∧
      lowerFrom before (c :: s) = p ++ lowerFrom (c :: before) s) := by
  rw [lowerFrom]
  by_cases hc : IsLowMark c
  · obtain ⟨hlow, hsigma, hkept⟩ := hc
    rw [if_neg hsigma, hkept]
    exact .inl ⟨⟨hlow, hsigma, hkept⟩, rfl⟩
  · refine .inr ⟨hc, _, ?_, ?_, rfl⟩
    · split
      · exact List.cons_ne_nil _ _
      · unfold lowerChar
        split <;> exact List.cons_ne_nil _ _
    · intro d hd hmark
      split at hd
      -- Both small sigmas lie above all marks.
      · have hsigmas : 0x60 < (Char.ofNat 0x3C2).toNat ∧ 0x60 < (Char.ofNat 0x3C3).toNat := by decide
        rw [List.mem_singleton.mp hd, lowerSigma] at hmark
        split at hmark
        · exact absurd hmark.1 (Nat.not_le.mpr hsigmas.1)
        · exact absurd hmark.1 (Nat.not_le.mpr hsigmas.2)
      · exact hc (eq_of_mem_lowerChar hd hmark.1 ▸ hmark)

theorem head?_lowerFrom_iff {d : Char} (hd : IsLowMark d) (before s : List Char) :
    (lowerFrom before s).head? = some d ↔ s.head? = some d := by
  cases s with
  | nil => rfl
  | cons c s =>
    rcases lowerFrom_cons_cases before c s with ⟨-, h⟩ | ⟨hc, p, hp, hnone, h⟩
    · rw [h, List.head?_cons, List.head?_cons]
    · obtain ⟨e, p, rfl⟩ := List.exists_cons_of_ne_nil hp
      have hc' : c ≠ d := fun hcd => hc (hcd ▸ hd)
      have he : e ≠ d := fun hed => hnone e List.mem_cons_self (hed ▸ hd)
      rw [h]
      simp [hc', he]

end CatalogRspec.Unicode
