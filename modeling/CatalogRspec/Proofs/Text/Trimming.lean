import CatalogRspec.Text.Blank
import Mathlib.Data.List.DropRight

namespace CatalogRspec.Text

/-- There is no blank at either end. -/
def IsTrimmed (s : List Char) : Prop :=
  (∀ c, s.head? = some c → isBlank c = false) ∧ ∀ c, s.getLast? = some c → isBlank c = false

/-- Looks at the two ends, and not at all characters that there are. -/
instance (s : List Char) : Decidable (IsTrimmed s) :=
  decidable_of_iff ((s.head?.all (!isBlank ·)) = true ∧ (s.getLast?.all (!isBlank ·)) = true)
    (by simp [IsTrimmed, Option.all_eq_true])

variable {s w : List Char} {c : Char}

theorem isTrimmed_of_forall (h : ∀ c ∈ s, isBlank c = false) : IsTrimmed s :=
  ⟨fun c hc => h c (List.mem_of_head? hc), fun c hc => h c (List.mem_of_getLast? hc)⟩

theorem trimRight_eq (s : List Char) : trimRight s = s.rdropWhile isBlank := rfl

theorem trim_prefix_trimLeft (s : List Char) : trim s <+: trimLeft s :=
  List.rdropWhile_prefix isBlank (trimLeft s)

theorem mem_of_mem_trim (h : c ∈ trim s) : c ∈ s :=
  (List.dropWhile_sublist isBlank).mem ((trim_prefix_trimLeft s).mem h)

theorem isTrimmed_trim (s : List Char) : IsTrimmed (trim s) := by
  constructor
  · intro c hc
    -- What is cut at the right leaves the first character, if it leaves any.
    have hhead : (trimLeft s).head? = some c := by
      obtain ⟨cut, hcut⟩ := trim_prefix_trimLeft s
      rw [← hcut, List.head?_append, hc]
      rfl
    have hnot := List.head?_dropWhile_not isBlank s
    rw [← trimLeft, hhead] at hnot
    exact hnot
  · intro c hc
    have hne : trim s ≠ [] := by
      intro hnil
      rw [hnil] at hc
      cases hc
    have hlast := List.rdropWhile_last_not isBlank (trimLeft s) hne
    rw [List.getLast?_eq_some_getLast hne, Option.some.injEq] at hc
    rw [← hc]
    exact Bool.eq_false_iff.mpr hlast

theorem IsTrimmed.trim_eq (h : IsTrimmed s) : trim s = s := by
  have hleft : trimLeft s = s := by
    cases s with
    | nil => rfl
    | cons c s => exact List.dropWhile_cons_of_neg (by simp [h.1 c rfl])
  rw [trim, hleft, trimRight_eq, List.rdropWhile_eq_self_iff]
  intro hne
  rw [h.2 _ (List.getLast?_eq_some_getLast hne)]
  exact Bool.false_ne_true

theorem of_mem_splitOnP (h : w ∈ s.splitOnP isBlank) (hc : c ∈ w) : c ∈ s ∧ isBlank c = false := by
  induction s generalizing w with
  | nil =>
    rw [List.splitOnP_nil, List.mem_singleton] at h
    rw [h] at hc
    cases hc
  | cons d s ih =>
    rw [List.splitOnP_cons_eq_if_modifyHead] at h
    split at h
    · rcases List.mem_cons.mp h with rfl | h
      · cases hc
      · exact (ih h hc).imp_left (List.mem_cons_of_mem d)
    · next hd =>
      obtain ⟨piece, pieces, hpieces⟩ :=
        List.exists_cons_of_ne_nil (List.splitOnP_ne_nil isBlank s)
      rw [hpieces, List.modifyHead_cons] at h
      rw [hpieces] at ih
      rcases List.mem_cons.mp h with rfl | h
      · rcases List.mem_cons.mp hc with rfl | hc
        · exact ⟨List.mem_cons_self, Bool.eq_false_iff.mpr hd⟩
        · exact (ih List.mem_cons_self hc).imp_left (List.mem_cons_of_mem d)
      · exact (ih (List.mem_cons_of_mem piece h) hc).imp_left (List.mem_cons_of_mem d)

theorem of_mem_words (h : w ∈ words s) : w ≠ [] ∧ ∀ c ∈ w, c ∈ s ∧ isBlank c = false := by
  obtain ⟨hpiece, hne⟩ := List.mem_filter.mp h
  exact ⟨by simpa using hne, fun c hc => of_mem_splitOnP hpiece hc⟩

end CatalogRspec.Text
