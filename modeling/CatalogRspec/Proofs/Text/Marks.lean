import CatalogRspec.Proofs.Text.Backslash

namespace CatalogRspec.Text

/-- One pass that puts a backslash before every place where the text ahead is marked. -/
def marked (mark : List Char → Bool) : List Char → List Char
  | [] => []
  | c :: s => if mark (c :: s) then '\\' :: c :: marked mark s else c :: marked mark s

theorem backslashed_eq_marked (patterns : List (List Char)) (s : List Char) :
    backslashed patterns s = marked (fun t => patterns.any (·.isPrefixOf t)) s := by
  induction s with
  | nil => rfl
  | cons c s ih => rw [backslashed, marked, ih]

variable {mark : List Char → Bool}

theorem isPrefixOf_singleton_marked {b : Char} (hb : b ≠ '\\') (s : List Char) :
    [b].isPrefixOf (marked mark s) = ([b].isPrefixOf s && !mark s) := by
  cases s with
  | nil => rfl
  | cons c s =>
    rw [marked]
    by_cases hm : mark (c :: s) = true
    · simp [hm, hb, List.isPrefixOf_cons_cons]
    · simp [hm, List.isPrefixOf_cons_cons]

/-- A pattern of two characters occurs behind the pass where it did and its second character is not
marked. -/
theorem backslashed_marked {a b : Char} (ha : a ≠ '\\') (hb : b ≠ '\\')
    (hmark : ∀ t, mark (a :: b :: t) = false) (s : List Char) :
    backslashed [[a, b]] (marked mark s) =
      marked (fun t => mark t || [a, b].isPrefixOf t && !mark t.tail) s := by
  induction s with
  | nil => rfl
  | cons c s ih =>
    have hpair : [a, b].isPrefixOf (c :: marked mark s) =
        ([a, b].isPrefixOf (c :: s) && !mark s) := by
      rw [List.isPrefixOf_cons_cons, List.isPrefixOf_cons_cons, isPrefixOf_singleton_marked hb,
        Bool.and_assoc]
    have hplain : backslashed [[a, b]] (c :: marked mark s) =
        if [a, b].isPrefixOf (c :: s) && !mark s then
          '\\' :: c :: backslashed [[a, b]] (marked mark s)
        else c :: backslashed [[a, b]] (marked mark s) := by
      rw [backslashed, ← hpair]
      simp
    rw [marked, marked, List.tail_cons, ← ih]
    by_cases hm : mark (c :: s) = true
    -- Where a backslash is put, the pattern occurs neither behind it nor at it.
    · have hno : [a, b].isPrefixOf (c :: s) = false := by
        by_contra hp
        obtain ⟨rfl, t, rfl⟩ : a = c ∧ ∃ t, b :: t = s := by
          simpa [List.isPrefixOf_iff_prefix, List.cons_prefix_cons, List.IsPrefix] using hp
        rw [hmark] at hm
        cases hm
      rw [if_pos hm, backslashed, hplain, hno]
      simp [hm, ha]
    · have hfalse : mark (c :: s) = false := by simpa using hm
      rw [if_neg hm, hplain, hfalse, Bool.false_or]

end CatalogRspec.Text
