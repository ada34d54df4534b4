import CatalogRspec.Options.Basic

namespace CatalogRspec.Options

theorem exclude_of_mem {o : Options} {entry : String} (h : entry ∈ o.excludes) :
    o.exclude entry = o := by
  simp [exclude, h]

theorem exclude_of_not_mem {o : Options} {entry : String} (h : entry ∉ o.excludes) :
    o.exclude entry = { o with excludes := o.excludes ++ [entry] } := by
  simp [exclude, h]

theorem filter_not_mem_concat {α : Type} [DecidableEq α] (xs ys : List α) (x : α) :
    xs.filter (· ∉ ys ++ [x]) = (xs.filter (· ∉ ys)).filter fun y => !(y == x) := by
  rw [List.filter_filter]
  refine List.filter_congr fun y _ => Bool.eq_iff_iff.mpr ?_
  simp [and_comm]

/-- New entries go behind those that are there, each of them once. -/
theorem foldl_exclude (xs : List String) (o : Options) :
    xs.foldl exclude o =
      { o with excludes := o.excludes ++ (xs.filter (· ∉ o.excludes)).eraseDups } := by
  induction xs generalizing o with
  | nil => simp
  | cons x xs ih =>
    rw [List.foldl_cons, ih]
    by_cases hx : x ∈ o.excludes
    · simp [exclude_of_mem hx, hx]
    · -- What comes later is compared with the entry that has just been added as well.
      rw [exclude_of_not_mem hx]
      dsimp only
      rw [filter_not_mem_concat, List.filter_cons_of_pos (by simpa using hx), List.eraseDups_cons,
        List.append_assoc, List.singleton_append]

theorem foldl_allow (xs : List String) (o : Options) :
    xs.foldl allow o = { o with excludes := o.excludes.filter (· ∉ xs) } := by
  induction xs generalizing o with
  | nil =>
    have hall : o.excludes.filter (· ∉ []) = o.excludes := List.filter_eq_self.mpr (by simp)
    rw [List.foldl_nil, hall]
  | cons x xs ih =>
    have hallowed : (o.excludes.filter (· != x)).filter (· ∉ xs) =
        o.excludes.filter (· ∉ x :: xs) := by
      rw [List.filter_filter]
      refine List.filter_congr fun y _ => Bool.eq_iff_iff.mpr ?_
      simp [and_comm]
    rw [List.foldl_cons, ih, allow, hallowed]

theorem foldl_addOnlyInclude (xs : List String) (o : Options) :
    xs.foldl addOnlyInclude o = { o with onlyInclude := o.onlyInclude ++ xs } := by
  induction xs generalizing o with
  | nil => simp
  | cons x xs ih =>
    rw [List.foldl_cons, ih, addOnlyInclude]
    simp

theorem foldl_exclude_again (o : Options) {x : String} {xs : List String} (h : x ∈ xs)
    (ys : List String) : (xs ++ x :: ys).foldl exclude o = (xs ++ ys).foldl exclude o := by
  have hthere : x ∈ (xs.foldl exclude o).excludes := by
    rw [foldl_exclude]
    simp [h, Decidable.em]
  rw [List.foldl_append, List.foldl_append, List.foldl_cons, exclude_of_mem hthere]

end CatalogRspec.Options
