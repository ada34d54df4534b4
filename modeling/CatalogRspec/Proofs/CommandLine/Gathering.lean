import Mathlib.Data.List.Induction
import CatalogRspec.Proofs.CommandLine.Uses

namespace CatalogRspec.CommandLine

def valuesOf (s : Setting) (us : List Use) : List String :=
  us.filterMap fun
    | .setting s' value => if s' = s then some value else none
    | .flag _ => none

def timesOf (f : Flag) (us : List Use) : Nat := us.count (.flag f)

def Setting.isRepeatable : Setting → Bool
  | .exclude | .allow | .onlyInclude => true
  | .catalog | .output | .className | .config => false

/-- What is asked for by uses of options. -/
def gathered (us : List Use) : CommandLine where
  catalog := (valuesOf .catalog us).head?
  output := (valuesOf .output us).head?
  excludes := valuesOf .exclude us
  allows := valuesOf .allow us
  onlyIncludes := valuesOf .onlyInclude us
  md5sums := decide (timesOf .md5sums us ≠ 0)
  strictContent := decide (timesOf .strictContent us ≠ 0)
  className := (valuesOf .className us).head?
  config := (valuesOf .config us).head?
  verbosity := timesOf .verbose us

/-- Uses of options that may stand in one command line: no option twice that counts once, no path
that is empty, and no call for help. -/
structure Fit (us : List Use) : Prop where
  setting_once : ∀ s, s.isRepeatable = false → (valuesOf s us).length ≤ 1
  path_ne : ∀ s, s.isPath = true → "" ∉ valuesOf s us
  flag_once : ∀ f, f ≠ .verbose → timesOf f us ≤ 1
  no_help : timesOf .help us = 0

/-- Uses of the same options with the same values, each option's in the same order. -/
structure Interleaved (us vs : List Use) : Prop where
  valuesOf_eq : ∀ s, valuesOf s us = valuesOf s vs
  timesOf_eq : ∀ f, timesOf f us = timesOf f vs

theorem valuesOf_append (s : Setting) (us vs : List Use) :
    valuesOf s (us ++ vs) = valuesOf s us ++ valuesOf s vs := List.filterMap_append

theorem timesOf_append (f : Flag) (us vs : List Use) :
    timesOf f (us ++ vs) = timesOf f us + timesOf f vs := List.count_append

@[simp] theorem valuesOf_setting (s s' : Setting) (value : String) :
    valuesOf s [.setting s' value] = if s' = s then [value] else [] := by
  unfold valuesOf
  split <;> simp [*]

@[simp] theorem valuesOf_flag (s : Setting) (f : Flag) : valuesOf s [.flag f] = [] := rfl

@[simp] theorem timesOf_setting (f : Flag) (s : Setting) (value : String) :
    timesOf f [.setting s value] = 0 := by
  simp [timesOf]

@[simp] theorem timesOf_flag (f f' : Flag) : timesOf f [.flag f'] = if f' = f then 1 else 0 := by
  simp [timesOf, List.count_singleton]

theorem fit_nil : Fit [] := by
  constructor <;> simp [valuesOf, timesOf]

theorem fit_append_setting (us : List Use) (s : Setting) (value : String) :
    Fit (us ++ [.setting s value]) ↔
      Fit us ∧ (s.isRepeatable = false → valuesOf s us = []) ∧ (s.isPath = true → value ≠ "") := by
  constructor
  · rintro ⟨hsetting, hpath, hflag, hhelp⟩
    -- The bounds on all uses bound those in front, and leave the last one its place.
    simp only [valuesOf_append, timesOf_append, valuesOf_setting, timesOf_setting, Nat.add_zero,
      List.length_append, List.mem_append, not_or] at hsetting hpath hflag hhelp
    refine ⟨⟨fun s' hs' => ?_, fun s' hs' => (hpath s' hs').1, hflag, hhelp⟩, fun hs => ?_, fun hs => ?_⟩
    · exact Nat.le_of_add_right_le (hsetting s' hs')
    · have hlength := hsetting s hs
      rw [if_pos rfl, List.length_singleton] at hlength
      exact List.length_eq_zero_iff.mp (by omega)
    · rintro rfl
      simpa using (hpath s hs).2
  · rintro ⟨⟨hsetting, hpath, hflag, hhelp⟩, honce, hvalue⟩
    constructor
    · intro s' hs'
      rw [valuesOf_append, valuesOf_setting]
      by_cases h : s = s'
      · subst h
        simp [honce hs']
      · simpa [h] using hsetting s' hs'
    · intro s' hs'
      rw [valuesOf_append, valuesOf_setting]
      by_cases h : s = s'
      · subst h
        simpa using ⟨hpath s hs', hvalue hs'⟩
      · simpa [h] using hpath s' hs'
    · simpa [timesOf_append] using hflag
    · simpa [timesOf_append] using hhelp

theorem fit_append_flag (us : List Use) (f : Flag) :
    Fit (us ++ [.flag f]) ↔ Fit us ∧ (f ≠ .verbose → timesOf f us = 0) ∧ f ≠ .help := by
  constructor
  · rintro ⟨hsetting, hpath, hflag, hhelp⟩
    simp only [valuesOf_append, timesOf_append, valuesOf_flag, timesOf_flag, List.append_nil]
      at hsetting hpath hflag hhelp
    refine ⟨⟨hsetting, hpath, fun f' hf' => ?_, ?_⟩, fun hf => ?_, ?_⟩
    · exact Nat.le_of_add_right_le (hflag f' hf')
    · exact Nat.eq_zero_of_add_eq_zero_right hhelp
    · have htimes := hflag f hf
      rw [if_pos rfl] at htimes
      omega
    · rintro rfl
      exact Nat.succ_ne_zero _ hhelp
  · rintro ⟨⟨hsetting, hpath, hflag, hhelp⟩, honce, hne⟩
    constructor
    · simpa [valuesOf_append] using hsetting
    · simpa [valuesOf_append] using hpath
    · intro f' hf'
      rw [timesOf_append, timesOf_flag]
      by_cases h : f = f'
      · subst h
        simp [honce hf']
      · simpa [h] using hflag f' hf'
    · simpa [timesOf_append, hne] using hhelp

theorem toOption_once (s : Setting) (old : Option String) (value : String) :
    (once s old value).toOption =
      if old = none ∧ (s.isPath = true → value ≠ "") then some (some value) else none := by
  unfold once
  cases old with
  | some v => simp
  | none => by_cases hs : s.isPath = true <;> by_cases hv : value = "" <;> simp [hs, hv]

theorem take?_gathered_setting (us : List Use) (s : Setting) (value : String) :
    take? (gathered us) (.setting s value) =
      if (s.isRepeatable = false → valuesOf s us = []) ∧ (s.isPath = true → value ≠ "") then
        some (gathered (us ++ [.setting s value]))
      else none := by
  have hkept (s' : Setting) : valuesOf s' (us ++ [.setting s value]) =
      if s = s' then valuesOf s' us ++ [value] else valuesOf s' us := by
    rw [valuesOf_append, valuesOf_setting]
    split <;> simp
  have htimes (f : Flag) : timesOf f (us ++ [.setting s value]) = timesOf f us := by
    simp [timesOf_append]
  rw [take?]
  cases s with
  | exclude => simp [assign, gathered, hkept, htimes, Setting.isRepeatable, Setting.isPath]
  | allow => simp [assign, gathered, hkept, htimes, Setting.isRepeatable, Setting.isPath]
  | onlyInclude => simp [assign, gathered, hkept, htimes, Setting.isRepeatable, Setting.isPath]
  | _ =>
    rw [assign, Except.toOption_map, toOption_once]
    simp only [gathered, List.head?_eq_none_iff, Setting.isRepeatable, forall_const]
    split
    · next h => simp [hkept, htimes, h.1]
    · rfl

theorem take?_gathered_flag (us : List Use) (f : Flag) :
    take? (gathered us) (.flag f) =
      if (f ≠ .verbose → timesOf f us = 0) ∧ f ≠ .help then some (gathered (us ++ [.flag f]))
      else none := by
  have hkept (s : Setting) : valuesOf s (us ++ [.flag f]) = valuesOf s us := by
    simp [valuesOf_append]
  have htimes (f' : Flag) : timesOf f' (us ++ [.flag f]) =
      if f = f' then timesOf f' us + 1 else timesOf f' us := by
    rw [timesOf_append, timesOf_flag]
    split <;> rfl
  rw [take?]
  cases f with
  | verbose => simp [raise, gathered, hkept, htimes]
  | help => simp [raise]
  | _ =>
    simp only [raise, gathered, decide_eq_true_eq, ne_eq, reduceCtorEq, not_false_eq_true,
      forall_const, and_true, hkept, htimes]
    split
    · simp
    · next h => simp [Decidable.not_not.mp h]

/-- Uses of options can all be taken in just when they fit into one command line. What it asks for is
gathered option by option. -/
theorem takeAll?_eq_some_iff (us : List Use) (l : CommandLine) :
    takeAll? {} us = some l ↔ Fit us ∧ gathered us = l := by
  -- The last use is taken in behind what was gathered, so the induction is from the right.
  induction us using List.reverseRecOn generalizing l with
  | nil => simp [takeAll?_nil, fit_nil, gathered, valuesOf, timesOf]
  | append_singleton us u ih =>
    have hstep : takeAll? {} (us ++ [u]) = some l ↔ Fit us ∧ take? (gathered us) u = some l := by
      rw [takeAll?_append, Option.bind_eq_some_iff]
      simp only [ih, takeAll?_singleton, and_assoc, exists_and_left, exists_eq_left']
    rw [hstep]
    cases u with
    | setting s value =>
      rw [take?_gathered_setting, fit_append_setting, ite_eq_iff]
      simp [and_assoc]
    | flag f =>
      rw [take?_gathered_flag, fit_append_flag, ite_eq_iff]
      simp [and_assoc]

namespace Interleaved

variable {us vs : List Use}

theorem gathered_eq (h : Interleaved us vs) : gathered us = gathered vs := by
  simp only [gathered, h.valuesOf_eq, h.timesOf_eq]

theorem symm (h : Interleaved us vs) : Interleaved vs us :=
  ⟨fun s => (h.valuesOf_eq s).symm, fun f => (h.timesOf_eq f).symm⟩

theorem fit (h : Interleaved us vs) (hus : Fit us) : Fit vs := by
  constructor
  · exact fun s hs => h.valuesOf_eq s ▸ hus.setting_once s hs
  · exact fun s hs => h.valuesOf_eq s ▸ hus.path_ne s hs
  · exact fun f hf => h.timesOf_eq f ▸ hus.flag_once f hf
  · exact h.timesOf_eq .help ▸ hus.no_help

/-- Command lines with the same uses of options ask for the same, however these are interleaved. -/
theorem parse_iff {as bs : List String} (h : Interleaved us vs) (has : uses? none as = some us)
    (hbs : uses? none bs = some vs) (l : CommandLine) : parse as = .ok l ↔ parse bs = .ok l := by
  simp only [parse_eq_ok_iff, has, hbs, Option.some.injEq, exists_eq_left', takeAll?_eq_some_iff,
    h.gathered_eq]
  exact and_congr_left fun _ => ⟨h.fit, h.symm.fit⟩

end Interleaved

end CatalogRspec.CommandLine
