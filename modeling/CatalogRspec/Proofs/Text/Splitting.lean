import CatalogRspec.Text.Replace

namespace CatalogRspec.Text

variable {sep : List Char}

theorem splitFrom_skip (sep : List Char) (skip : Nat) (s : List Char) :
    splitFrom sep skip s = splitFrom sep 0 (s.drop skip) := by
  induction skip generalizing s with
  | zero => rfl
  | succ skip ih =>
    cases s with
    | nil => rfl
    | cons c s => rw [splitFrom, ih, List.drop_succ_cons]

theorem splitFrom_ne_nil (sep : List Char) (skip : Nat) (s : List Char) :
    splitFrom sep skip s ≠ [] := by
  induction s generalizing skip with
  | nil => cases skip <;> exact List.cons_ne_nil _ _
  | cons c s ih =>
    cases skip with
    | succ skip => exact ih skip
    | zero =>
      rw [splitFrom]
      split
      · exact List.cons_ne_nil _ _
      · split <;> exact List.cons_ne_nil _ _

theorem splitFrom_append (h : sep ≠ []) (s : List Char) :
    splitFrom sep 0 (sep ++ s) = [] :: splitFrom sep 0 s := by
  obtain ⟨a, w, rfl⟩ := List.exists_cons_of_ne_nil h
  have hprefix : (a :: w).isPrefixOf (a :: (w ++ s)) = true :=
    List.isPrefixOf_iff_prefix.mpr (List.prefix_append (a :: w) s)
  rw [List.cons_append, splitFrom, if_pos hprefix, splitFrom_skip]
  simp

theorem intercalate_splitFrom (h : sep ≠ []) (s : List Char) :
    sep.intercalate (splitFrom sep 0 s) = s := by
  -- A separator is passed over as a whole, so the induction is on the length.
  induction hn : s.length using Nat.strongRecOn generalizing s with
  | _ n ih =>
    cases s with
    | nil => simp [splitFrom]
    | cons c s =>
      by_cases hp : sep.isPrefixOf (c :: s) = true
      · obtain ⟨rest, hrest⟩ := List.isPrefixOf_iff_prefix.mp hp
        have hshort : rest.length < n := by
          have hlength := congrArg List.length hrest
          have hpos := List.length_pos_iff.mpr h
          simp only [List.length_append, hn] at hlength
          omega
        obtain ⟨piece, pieces, hpieces⟩ := List.exists_cons_of_ne_nil (splitFrom_ne_nil sep 0 rest)
        have ihrest := ih rest.length hshort rest rfl
        rw [← hrest, splitFrom_append h]
        rw [hpieces] at ihrest ⊢
        rw [List.intercalate_cons_cons, ihrest, List.nil_append]
      · have ihs := ih s.length (by simp [← hn]) s rfl
        obtain ⟨piece, pieces, hpieces⟩ := List.exists_cons_of_ne_nil (splitFrom_ne_nil sep 0 s)
        rw [splitFrom, if_neg hp]
        rw [hpieces] at ihs ⊢
        cases pieces <;> simp_all

theorem toList_split (sep s : String) :
    (split sep s).map String.toList = splitFrom sep.toList 0 s.toList := by
  simp [split, Function.comp_def]

theorem intercalate_split {sep : String} (h : sep.toList ≠ []) (s : String) :
    sep.intercalate (split sep s) = s := by
  rw [← String.toList_inj, String.toList_intercalate, toList_split, intercalate_splitFrom h]

theorem mem_of_mem_intercalate {ts : List (List Char)} {c : Char} (h : c ∈ sep.intercalate ts) :
    c ∈ sep ∨ ∃ t ∈ ts, c ∈ t := by
  induction ts with
  | nil => cases h
  | cons t ts ih =>
    cases ts with
    | nil => exact .inr ⟨t, List.mem_cons_self, by simpa using h⟩
    | cons u ts =>
      rw [List.intercalate_cons_cons, List.mem_append, List.mem_append] at h
      rcases h with (ht | hsep) | hrest
      · exact .inr ⟨t, List.mem_cons_self, ht⟩
      · exact .inl hsep
      · exact (ih hrest).imp_right fun ⟨v, hv, hcv⟩ => ⟨v, List.mem_cons_of_mem t hv, hcv⟩

theorem mem_split {sep s : String} (h : sep.toList ≠ []) {c : Char} (hc : c ∈ s.toList) :
    c ∈ sep.toList ∨ ∃ piece ∈ split sep s, c ∈ piece.toList := by
  rw [← intercalate_splitFrom h s.toList, ← toList_split] at hc
  refine (mem_of_mem_intercalate hc).imp_right ?_
  rintro ⟨t, ht, hct⟩
  obtain ⟨piece, hpiece, rfl⟩ := List.mem_map.mp ht
  exact ⟨piece, hpiece, hct⟩

/-- Characters may be mapped before or after the split if the separator stays what it is. -/
theorem splitFrom_map {f : Char → Char} (hf : ∀ d ∈ sep, ∀ c, f c = d ↔ c = d) (skip : Nat)
    (s : List Char) : splitFrom sep skip (s.map f) = (splitFrom sep skip s).map (List.map f) := by
  have hprefix (s : List Char) : sep.isPrefixOf (s.map f) = sep.isPrefixOf s := by
    induction sep generalizing s with
    | nil => simp
    | cons d sep ih =>
      cases s with
      | nil => rfl
      | cons c s =>
        have hhead : (d == f c) = (d == c) := by
          rw [Bool.eq_iff_iff, beq_iff_eq, beq_iff_eq, eq_comm, hf d List.mem_cons_self c, eq_comm]
        rw [List.map_cons, List.isPrefixOf_cons_cons, List.isPrefixOf_cons_cons, hhead,
          ih fun e he => hf e (List.mem_cons_of_mem d he)]
  induction s generalizing skip with
  | nil => cases skip <;> rfl
  | cons c s ih =>
    cases skip with
    | succ skip => exact ih skip
    | zero =>
      have hcons := hprefix (c :: s)
      rw [List.map_cons] at hcons ⊢
      rw [splitFrom, splitFrom, hcons, ih, ih]
      split
      · rfl
      · cases splitFrom sep 0 s <;> rfl

end CatalogRspec.Text
