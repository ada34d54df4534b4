import CatalogRspec.Filter.Basic
import CatalogRspec.Proofs.Log.Except

namespace CatalogRspec

theorem mapM_cons_eq_error_iff {ε α β : Type} (f : α → Except ε β) (x : α) (xs : List α)
    (e : ε) : (x :: xs).mapM f = .error e ↔
      f x = .error e ∨ (∃ y, f x = .ok y) ∧ xs.mapM f = .error e := by
  have hend (y : β) (ys : List β) : (pure (y :: ys) : Except ε (List β)) ≠ .error e := nofun
  rw [List.mapM_cons]
  simp only [Except.bind_eq_error_iff, hend, and_false, exists_false, or_false, exists_and_right]

/-- The error of a traversal is that of the first element that has one. -/
theorem mapM_eq_error_iff_first {ε α β : Type} (f : α → Except ε β) (xs : List α) (e : ε) :
    xs.mapM f = .error e ↔ ∃ before x after, xs = before ++ x :: after ∧
      (∀ y ∈ before, ∃ z, f y = .ok z) ∧ f x = .error e := by
  induction xs with
  | nil => simp [pure, Except.pure]
  | cons x xs ih =>
    rw [mapM_cons_eq_error_iff, ih]
    simp only [List.cons_eq_append_iff]
    constructor
    · rintro (hx | ⟨hx, before, y, after, rfl, hbefore, hy⟩)
      · exact ⟨[], x, xs, .inl ⟨rfl, rfl⟩, by simp, hx⟩
      · exact ⟨x :: before, y, after, .inr ⟨before, rfl, rfl⟩, by simpa using ⟨hx, hbefore⟩, hy⟩
    · rintro ⟨before, y, after, ⟨rfl, h⟩ | ⟨tail, rfl, rfl⟩, hbefore, hy⟩
      · obtain ⟨rfl, -⟩ := List.cons.inj h
        exact .inl hy
      · obtain ⟨hx, htail⟩ := List.forall_mem_cons.mp hbefore
        exact .inr ⟨hx, tail, y, after, rfl, htail, hy⟩

theorem mapM_eq_error_iff {ε α β : Type} (f : α → Except ε β) (xs : List α) :
    (∃ e, xs.mapM f = .error e) ↔ ∃ x ∈ xs, ∃ e, f x = .error e := by
  simp only [mapM_eq_error_iff_first]
  constructor
  · rintro ⟨e, before, x, after, rfl, -, hx⟩
    exact ⟨x, List.mem_append_cons_self, e, hx⟩
  · rintro ⟨x, hx, e, he⟩
    have hfails : ∃ y ∈ xs, (!(f y).isOk) = true := ⟨x, hx, by rw [he]; rfl⟩
    obtain ⟨y, hy⟩ := Option.isSome_iff_exists.mp (List.find?_isSome.mpr hfails)
    obtain ⟨hfirst, before, after, hsplit, hbefore⟩ := List.find?_eq_some_iff_append.mp hy
    cases hfy : f y with
    | ok z => simp [hfy, Except.isOk, Except.toBool] at hfirst
    | error e' =>
      refine ⟨e', before, y, after, hsplit, fun z hz => ?_, hfy⟩
      cases hfz : f z with
      | ok w => exact ⟨w, rfl⟩
      | error bad => exact absurd (hbefore z hz) (by simp [hfz, Except.isOk, Except.toBool])

theorem mem_of_mapM_eq_ok {ε α β : Type} {f : α → Except ε β} {xs : List α} {ys : List β}
    (h : xs.mapM f = .ok ys) (y : β) : y ∈ ys ↔ ∃ x ∈ xs, f x = .ok y := by
  induction xs generalizing ys with
  | nil =>
    obtain rfl := Except.ok.inj h
    simp
  | cons x xs ih =>
    rw [List.mapM_cons] at h
    obtain ⟨z, hz, h⟩ := Except.bind_eq_ok_iff.mp h
    obtain ⟨zs, hzs, h⟩ := Except.bind_eq_ok_iff.mp h
    obtain rfl := Except.ok.inj h
    simp [ih hzs, hz, eq_comm]

namespace ExcludeRule

/-- An entry between slashes that is no pattern. -/
def Invalid (entry : String) : Prop :=
  ∃ source refusal, entry = "/" ++ source ++ "/" ∧ Pattern.parse source = .error refusal

/-- One slash alone is a type, for a pattern stands between two. -/
theorem delimited?_eq_some_iff (entry source : String) :
    delimited? entry = some source ↔ entry = "/" ++ source ++ "/" := by
  have hchars : entry = "/" ++ source ++ "/" ↔ entry.toList = '/' :: (source.toList ++ ['/']) := by
    rw [← String.toList_inj]
    simp
  rw [hchars]
  constructor
  · intro h
    unfold delimited? at h
    split at h
    · next rest hentry =>
      split at h
      · next hlast =>
        obtain ⟨body, rfl⟩ := List.getLast?_eq_some_iff.mp hlast
        rw [hentry, ← Option.some.inj h]
        simp
      · cases h
    · cases h
  · intro h
    simp [delimited?, h]

theorem parse_eq_error_iff (entry : String) : (∃ e, parse entry = .error e) ↔ Invalid entry := by
  unfold parse Invalid
  simp only [← delimited?_eq_some_iff]
  cases delimited? entry with
  | none => simp
  | some source =>
    simp only [Option.some.injEq]
    cases hp : Pattern.parse source <;> simp [hp]

end ExcludeRule

/-- One of the entries that exclude is no pattern, and no others stand in for them. -/
def Options.HasInvalidPattern (o : Options) : Prop :=
  o.onlyInclude = [] ∧ ∃ entry ∈ o.excludes, ExcludeRule.Invalid entry

namespace Filter

theorem ofOptions_eq_error_iff (o : Options) :
    (∃ e, ofOptions o = .error e) ↔ o.HasInvalidPattern := by
  simp only [Options.HasInvalidPattern, ← ExcludeRule.parse_eq_error_iff, ← mapM_eq_error_iff,
    ofOptions]
  cases o.onlyInclude with
  | nil => cases o.excludes.mapM ExcludeRule.parse <;> simp [Except.map]
  | cons s rest => simp

theorem exists_ofOptions_iff (o : Options) :
    (∃ f, ofOptions o = .ok f) ↔ ¬o.HasInvalidPattern := by
  rw [← ofOptions_eq_error_iff]
  cases ofOptions o <;> simp

theorem mem_apply (f : Filter) (rs : List Resource) (r : Resource) :
    r ∈ f.apply rs ↔ r ∈ rs ∧ f.keeps r = true := List.mem_filter

end Filter

end CatalogRspec
