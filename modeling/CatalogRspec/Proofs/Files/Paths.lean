import CatalogRspec.Files.Path
import CatalogRspec.Proofs.Text.Splitting

namespace CatalogRspec.Files

theorem prefix_of_mem_stems {α : Type} {xs ys : List α} (h : ys ∈ stems xs) : ys <+: xs := by
  induction xs generalizing ys with
  | nil => cases h
  | cons x xs ih =>
    rw [stems, List.mem_append, List.mem_map, List.mem_singleton] at h
    rcases h with ⟨zs, hzs, rfl⟩ | rfl
    · exact List.cons_prefix_cons.mpr ⟨rfl, ih hzs⟩
    · exact List.cons_prefix_cons.mpr ⟨rfl, List.nil_prefix⟩

namespace Path

@[simp]
theorem text_ofText (s : String) : (ofText s).text = s := by
  have hslash : "/".toList = ['/'] := by decide
  have hne : "/".toList ≠ [] := by decide
  unfold ofText
  split
  next rest hs =>
    have htext : s = "/" ++ String.ofList rest := by
      rw [← String.toList_inj, hs]
      simp [hslash]
    cases rest with
    | nil => simp [text, htext]
    | cons c rest => simp [text, htext, Text.intercalate_split hne]
  next hs =>
    rw [String.toList_eq_nil_iff] at hs
    simp [text, hs]
  next => simp [text, Text.intercalate_split hne]

/-- The directories of a path are those that it goes through. -/
theorem of_mem_directories {p q : Path} (h : q ∈ p.directories) :
    q.isAbsolute = p.isAbsolute ∧ q.segments <+: p.segments := by
  have htrail : q ∈ p.trail := List.mem_of_mem_tail h
  obtain ⟨segments, hsegments, rfl⟩ := List.mem_map.mp htrail
  exact ⟨rfl, prefix_of_mem_stems (List.mem_filter.mp hsegments).1⟩

end Path

end CatalogRspec.Files
