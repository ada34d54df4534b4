import CatalogRspec.Text.Replace

namespace CatalogRspec.Text

theorem unlines_nil : unlines [] = "" := rfl

theorem unlines_cons (l : String) (ls : List String) :
    unlines (l :: ls) = l ++ ("\n" ++ unlines ls) := by
  simp [unlines, String.append_assoc]

theorem unlines_append (xs ys : List String) : unlines (xs ++ ys) = unlines xs ++ unlines ys := by
  simp [unlines]

theorem unlines_flatMap {α : Type} (f : α → List String) (xs : List α) :
    unlines (xs.flatMap f) = String.join (xs.map fun x => unlines (f x)) := by
  induction xs with
  | nil => rfl
  | cons x xs ih => rw [List.flatMap_cons, unlines_append, ih, List.map_cons, String.join_cons]

/-- The text with a margin behind each line break. -/
def withMargin (margin s : List Char) : List Char :=
  s.flatMap fun c => if c = '\n' then '\n' :: margin else [c]

theorem withMargin_append (margin s t : List Char) :
    withMargin margin (s ++ t) = withMargin margin s ++ withMargin margin t :=
  List.flatMap_append

theorem withMargin_cons_break (margin s : List Char) :
    withMargin margin ('\n' :: s) = '\n' :: (margin ++ withMargin margin s) := by
  simp [withMargin]

theorem withMargin_cons {c : Char} (h : c ≠ '\n') (margin s : List Char) :
    withMargin margin (c :: s) = c :: withMargin margin s := by
  simp [withMargin, h]

theorem withMargin_of_no_break {s : List Char} (h : '\n' ∉ s) (margin : List Char) :
    withMargin margin s = s := by
  induction s with
  | nil => rfl
  | cons c s ih =>
    have hc : c ≠ '\n' := fun e => h (e ▸ List.mem_cons_self)
    rw [withMargin_cons hc, ih fun hm => h (List.mem_cons_of_mem c hm)]

theorem replaceFrom_singleton (a : Char) (new s : List Char) :
    replaceFrom [a] new 0 s = s.flatMap fun c => if c = a then new else [c] := by
  induction s with
  | nil => rfl
  | cons c s ih =>
    rw [replaceFrom, List.flatMap_cons, ← ih]
    by_cases hc : c = a
    · simp [hc]
    · simp [hc, Ne.symm hc]

theorem toList_replace_break (margin s : String) :
    (replace "\n" ("\n" ++ margin) s).toList = withMargin margin.toList s.toList := by
  have hbreak : "\n".isEmpty = false := by decide
  rw [replace, hbreak]
  simp [replaceFrom_singleton, withMargin]

theorem withMargin_intercalate (margin sep : List Char) (ts : List (List Char)) :
    withMargin margin (sep.intercalate ts) =
      (withMargin margin sep).intercalate (ts.map (withMargin margin)) := by
  induction ts with
  | nil => rfl
  | cons t ts ih =>
    cases ts with
    | nil => simp
    | cons u ts =>
      rw [List.intercalate_cons_cons, withMargin_append, withMargin_append, ih]
      simp only [List.map_cons, List.intercalate_cons_cons]

end CatalogRspec.Text
