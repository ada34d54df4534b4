import Mathlib.Data.List.Infix
import CatalogRspec.Proofs.Text.AllChars
import CatalogRspec.Text.Replace

namespace CatalogRspec.Text

/-- One pass that puts a backslash before every place where one of the patterns begins. -/
def backslashed (patterns : List (List Char)) : List Char → List Char
  | [] => []
  | c :: s =>
    if patterns.any (·.isPrefixOf (c :: s)) then '\\' :: c :: backslashed patterns s
    else c :: backslashed patterns s

/-- Backslashes before the patterns neither break nor make an occurrence of `old`. -/
def Apart (patterns : List (List Char)) (old : List Char) : Prop :=
  old ≠ [] ∧ '\\' ∉ old ∧
    ∀ p ∈ patterns, ¬p <+: old ∧ ¬old <+: p ∧ ∀ c ∈ old.tail, p.head? ≠ some c

instance (patterns : List (List Char)) (old : List Char) : Decidable (Apart patterns old) := by
  unfold Apart
  infer_instance

theorem replaceFrom_skip (old new : List Char) (skip : Nat) (s : List Char) :
    replaceFrom old new skip s = replaceFrom old new 0 (s.drop skip) := by
  induction skip generalizing s with
  | zero => rfl
  | succ skip ih =>
    cases s with
    | nil => rfl
    | cons c s => rw [replaceFrom, ih, List.drop_succ_cons]

theorem head?_of_isPrefixOf {p s : List Char} {c : Char} (hp : p ≠ [])
    (h : p.isPrefixOf (c :: s) = true) : p.head? = some c := by
  cases p with
  | nil => exact absurd rfl hp
  | cons a p => simpa using (List.cons_prefix_cons.mp (List.isPrefixOf_iff_prefix.mp h)).1

theorem backslashed_append {patterns : List (List Char)} {w : List Char}
    (hne : ∀ p ∈ patterns, p ≠ []) (hw : ∀ p ∈ patterns, ∀ c ∈ w, p.head? ≠ some c)
    (s : List Char) : backslashed patterns (w ++ s) = w ++ backslashed patterns s := by
  induction w with
  | nil => rfl
  | cons c w ih =>
    have hc : ¬patterns.any (·.isPrefixOf (c :: (w ++ s))) = true := by
      rw [List.any_eq_true]
      rintro ⟨p, hp, hps⟩
      exact hw p hp c List.mem_cons_self (head?_of_isPrefixOf (hne p hp) hps)
    rw [List.cons_append, backslashed, if_neg hc,
      ih fun p hp d hd => hw p hp d (List.mem_cons_of_mem c hd)]
    rfl

theorem backslashed_singletons (marks s : List Char) :
    backslashed (marks.map ([·])) s = s.flatMap fun c => if c ∈ marks then ['\\', c] else [c] := by
  induction s with
  | nil => rfl
  | cons c s ih =>
    have hmark : (marks.map ([·])).any (·.isPrefixOf (c :: s)) = true ↔ c ∈ marks := by
      simp [List.any_eq_true, List.isPrefixOf_cons_cons]
    rw [backslashed, List.flatMap_cons, ih]
    by_cases hc : c ∈ marks
    · rw [if_pos (hmark.mpr hc), if_pos hc]
      rfl
    · rw [if_neg (mt hmark.mp hc), if_neg hc]
      rfl

theorem replaceFrom_eq_backslashed {a : Char} {w : List Char} (h : a ∉ w) (s : List Char) :
    replaceFrom (a :: w) ('\\' :: a :: w) 0 s = backslashed [a :: w] s := by
  -- An occurrence is passed over as a whole, so the induction is on the length.
  induction hn : s.length using Nat.strong_induction_on generalizing s with
  | _ n ih =>
    cases s with
    | nil => rfl
    | cons c s =>
      rw [replaceFrom, backslashed]
      by_cases hp : (a :: w).isPrefixOf (c :: s) = true
      · obtain ⟨rfl, rest, rfl⟩ : a = c ∧ ∃ rest, w ++ rest = s := by
          simpa [List.isPrefixOf_iff_prefix, List.cons_prefix_cons, List.IsPrefix] using hp
        have hshort : rest.length < n := by
          simp only [← hn, List.length_cons, List.length_append]
          omega
        have hrest := ih rest.length hshort rest rfl
        have hskip : backslashed [a :: w] (w ++ rest) = w ++ backslashed [a :: w] rest := by
          refine backslashed_append (by simp) ?_ rest
          simpa using fun c hc (hac : a = c) => h (hac ▸ hc)
        simp only [hp, List.any_cons, Bool.true_or, if_true]
        rw [replaceFrom_skip, hskip, ← hrest]
        simp
      · have hs := ih s.length (by simp [← hn]) s rfl
        simp [hp, hs]

theorem isPrefixOf_backslashed {patterns : List (List Char)} {w : List Char} (hw : '\\' ∉ w)
    (hne : ∀ p ∈ patterns, p ≠ []) (hhead : ∀ p ∈ patterns, ∀ c ∈ w, p.head? ≠ some c)
    (s : List Char) : w.isPrefixOf (backslashed patterns s) = w.isPrefixOf s := by
  induction w generalizing s with
  | nil => simp
  | cons e w ih =>
    have ih := ih (fun h => hw (List.mem_cons_of_mem e h))
      (fun p hp c hc => hhead p hp c (List.mem_cons_of_mem e hc))
    cases s with
    | nil => rfl
    | cons c s =>
      rw [backslashed]
      by_cases hm : patterns.any (·.isPrefixOf (c :: s)) = true
      · have he : (e == '\\') = false := beq_false_of_ne fun h => hw (h ▸ List.mem_cons_self)
        have hc : (e == c) = false := by
          obtain ⟨p, hp, hps⟩ := List.any_eq_true.mp hm
          have hpc := head?_of_isPrefixOf (hne p hp) hps
          exact beq_false_of_ne fun h => hhead p hp e List.mem_cons_self (h ▸ hpc)
        rw [if_pos hm, List.isPrefixOf_cons_cons, List.isPrefixOf_cons_cons, he, hc]
        rfl
      · rw [if_neg hm, List.isPrefixOf_cons_cons, List.isPrefixOf_cons_cons, ih]

theorem not_prefix_of_apart {patterns : List (List Char)} {old s : List Char}
    (h : Apart patterns old) (hs : old.isPrefixOf s = true) :
    patterns.any (·.isPrefixOf s) = false := by
  rw [List.any_eq_false]
  intro p hp hps
  obtain ⟨hpo, hop, -⟩ := h.2.2 p hp
  rcases List.prefix_or_prefix_of_prefix (List.isPrefixOf_iff_prefix.mp hps)
    (List.isPrefixOf_iff_prefix.mp hs) with h | h
  · exact hpo h
  · exact hop h

/-- A further pattern can join the pass if it is apart from those before it. -/
theorem backslashed_backslashed {patterns : List (List Char)} {old : List Char}
    (h : Apart patterns old) (s : List Char) :
    backslashed [old] (backslashed patterns s) = backslashed (patterns ++ [old]) s := by
  obtain ⟨a, w, rfl⟩ := List.exists_cons_of_ne_nil h.1
  have ha : (a == '\\') = false := beq_false_of_ne fun e => h.2.1 (e ▸ List.mem_cons_self)
  have hne : ∀ p ∈ patterns, p ≠ [] := fun p hp e => (h.2.2 p hp).1 (e ▸ List.nil_prefix)
  have hw (s : List Char) : w.isPrefixOf (backslashed patterns s) = w.isPrefixOf s :=
    isPrefixOf_backslashed (fun hm => h.2.1 (List.mem_cons_of_mem a hm)) hne
      (fun p hp => (h.2.2 p hp).2.2) s
  induction s with
  | nil => rfl
  | cons c s ih =>
    rw [backslashed, backslashed, List.any_append]
    by_cases hm : patterns.any (·.isPrefixOf (c :: s)) = true
    -- The new pattern begins neither here nor at the backslash that was put here.
    · have hold : (a :: w).isPrefixOf (c :: s) = false := by
        by_contra hc
        rw [not_prefix_of_apart h (by simpa using hc)] at hm
        cases hm
      rw [List.isPrefixOf_cons_cons] at hold
      simp [hm, backslashed, List.isPrefixOf_cons_cons, ha, hw, hold, ih]
    · simp [hm, backslashed, List.isPrefixOf_cons_cons, hw, ih]

end CatalogRspec.Text
