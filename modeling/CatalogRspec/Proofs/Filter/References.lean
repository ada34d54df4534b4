import CatalogRspec.Filter.Reference
import CatalogRspec.Proofs.Text.Trimming

namespace CatalogRspec.Reference

open Text

/-- Neither part is empty or has a blank at an end, and no bracket opens in the type. -/
structure IsNormal (f : Reference) : Prop where
  type_ne_empty : f.type ≠ ""
  title_ne_empty : f.title ≠ ""
  isTrimmed_type : IsTrimmed f.type.toList
  isTrimmed_title : IsTrimmed f.title.toList
  no_bracket : '[' ∉ f.type.toList

instance (f : Reference) : Decidable f.IsNormal :=
  decidable_of_iff
    (f.type ≠ "" ∧ f.title ≠ "" ∧ IsTrimmed f.type.toList ∧ IsTrimmed f.title.toList ∧
      '[' ∉ f.type.toList)
    ⟨fun ⟨h₁, h₂, h₃, h₄, h₅⟩ => ⟨h₁, h₂, h₃, h₄, h₅⟩,
      fun ⟨h₁, h₂, h₃, h₄, h₅⟩ => ⟨h₁, h₂, h₃, h₄, h₅⟩⟩

def text (f : Reference) : String := f.type ++ "[" ++ f.title ++ "]"

variable {f : Reference} {t : String}

theorem toList_text (f : Reference) :
    f.text.toList = f.type.toList ++ '[' :: (f.title.toList ++ [']']) := by
  simp [text]

theorem isOf_iff (f : Reference) (r : Resource) : f.isOf r = true ↔ f = ⟨r.type, r.title⟩ := by
  obtain ⟨type, title⟩ := f
  rw [isOf, Bool.and_eq_true, beq_iff_eq, beq_iff_eq, mk.injEq]
  exact and_congr eq_comm eq_comm

theorem bracketed?_eq_some_iff (type rest : List Char) :
    bracketed? type rest = some f ↔ ∃ title, rest = title ++ [']'] ∧
      f = ⟨String.ofList (trim type), String.ofList (trim title)⟩ ∧
      trim type ≠ [] ∧ trim title ≠ [] := by
  unfold bracketed?
  dsimp only
  constructor
  · intro h
    split at h
    · next hlast =>
      obtain ⟨title, rfl⟩ := List.getLast?_eq_some_iff.mp hlast
      rw [List.dropLast_concat] at h
      split at h
      · cases h
      · next hne =>
        rw [Bool.or_eq_true, not_or, List.isEmpty_iff, List.isEmpty_iff] at hne
        exact ⟨title, rfl, (Option.some.inj h).symm, hne⟩
    · cases h
  · rintro ⟨title, rfl, rfl, htype, htitle⟩
    simp [htype, htitle]

theorem parse?_of_bracket {type rest : List Char} (h : trim t.toList = type ++ '[' :: rest)
    (htype : '[' ∉ type) : parse? t = bracketed? type rest := by
  have hpassed : ∀ c ∈ type, (c != '[') = true := by
    intro c hc
    exact bne_iff_ne.mpr fun h => htype (h ▸ hc)
  unfold parse?
  dsimp only
  rw [h, List.dropWhile_append_of_pos hpassed, List.takeWhile_append_of_pos hpassed,
    List.dropWhile_cons_of_neg (by simp), List.takeWhile_cons_of_neg (by simp), List.append_nil]

theorem parse?_of_no_bracket (h : '[' ∉ trim t.toList) :
    parse? t = some f ↔ ∃ type title others, words (trim t.toList) = type :: title :: others ∧
      f = ⟨String.ofList type, String.ofList title⟩ := by
  have hnone : (trim t.toList).dropWhile (· != '[') = [] := by
    rw [List.dropWhile_eq_nil_iff]
    intro c hc
    exact bne_iff_ne.mpr fun hbracket => h (hbracket ▸ hc)
  unfold parse?
  simp only [hnone]
  constructor
  · intro hparse
    split at hparse
    · next type title others hwords =>
      exact ⟨type, title, others, hwords, (Option.some.inj hparse).symm⟩
    · cases hparse
  · rintro ⟨type, title, others, hwords, rfl⟩
    rw [hwords]

theorem isNormal_of_bracketed {type rest : List Char} (htype : '[' ∉ type)
    (h : bracketed? type rest = some f) : f.IsNormal := by
  obtain ⟨title, -, rfl, hne, hne'⟩ := (bracketed?_eq_some_iff type rest).mp h
  constructor
  · simpa [← String.toList_inj] using hne
  · simpa [← String.toList_inj] using hne'
  · simpa using isTrimmed_trim type
  · simpa using isTrimmed_trim title
  · simpa using fun hmem => htype (mem_of_mem_trim hmem)

theorem isNormal_of_words {s type title : List Char} (hs : '[' ∉ s) (htype : type ∈ words s)
    (htitle : title ∈ words s) : IsNormal ⟨String.ofList type, String.ofList title⟩ := by
  obtain ⟨hne, hchars⟩ := of_mem_words htype
  obtain ⟨hne', hchars'⟩ := of_mem_words htitle
  constructor
  · simpa [← String.toList_inj] using hne
  · simpa [← String.toList_inj] using hne'
  · simpa using isTrimmed_of_forall fun c hc => (hchars c hc).2
  · simpa using isTrimmed_of_forall fun c hc => (hchars' c hc).2
  · simpa using fun hmem => hs (hchars '[' hmem).1

theorem isNormal_of_parse (h : parse? t = some f) : f.IsNormal := by
  by_cases hbracket : '[' ∈ trim t.toList
  · obtain ⟨type, rest, hcut, htype⟩ := List.eq_append_cons_of_mem hbracket
    rw [parse?_of_bracket hcut htype] at h
    exact isNormal_of_bracketed htype h
  · obtain ⟨type, title, others, hwords, rfl⟩ := (parse?_of_no_bracket hbracket).mp h
    exact isNormal_of_words hbracket (by simp [hwords]) (by simp [hwords])

namespace IsNormal

theorem isTrimmed_text (h : f.IsNormal) : IsTrimmed f.text.toList := by
  rw [toList_text]
  constructor
  · intro c hc
    have htype : f.type.toList ≠ [] := by simpa using h.type_ne_empty
    rw [List.head?_append_of_ne_nil _ htype] at hc
    exact h.isTrimmed_type.1 c hc
  · intro c hc
    rw [← List.cons_append, ← List.append_assoc, List.getLast?_concat, Option.some.injEq] at hc
    rw [← hc]
    rfl

theorem parse?_text (h : f.IsNormal) : parse? f.text = some f := by
  have hcut : trim f.text.toList = f.type.toList ++ '[' :: (f.title.toList ++ [']']) := by
    rw [h.isTrimmed_text.trim_eq, toList_text]
  rw [parse?_of_bracket hcut h.no_bracket, bracketed?_eq_some_iff, h.isTrimmed_type.trim_eq]
  refine ⟨f.title.toList, rfl, ?_⟩
  rw [h.isTrimmed_title.trim_eq, String.ofList_toList, String.ofList_toList]
  exact ⟨rfl, by simpa using h.type_ne_empty, by simpa using h.title_ne_empty⟩

end IsNormal

/-- What a resource is shown as is read as a reference to it just if its type and title make a reference
in normal form. Whatever is read, from either form of text, is in normal form and is read again from its
own text. -/
theorem parse?_reference (r : Resource) (t : String) :
    ((∃ f, parse? r.reference = some f ∧ f.isOf r = true) ↔ IsNormal ⟨r.type, r.title⟩) ∧
    ∀ f, parse? t = some f → f.IsNormal ∧ parse? f.text = some f := by
  refine ⟨⟨?_, fun h => ?_⟩, fun f hf => ?_⟩
  · rintro ⟨f, hparse, hof⟩
    rw [← (isOf_iff f r).mp hof]
    exact isNormal_of_parse hparse
  · exact ⟨_, h.parse?_text, (isOf_iff _ r).mpr rfl⟩
  · have h := isNormal_of_parse hf
    exact ⟨h, h.parse?_text⟩

theorem parse?_reference_of_brackets :
    let r : Resource := ⟨"File", "a[0]] ]", []⟩
    let f : Reference := ⟨"Ntp::Config", "[x] y]"⟩
    let t := "\u3000Ntp::Config\u00a0[ [x] y] ]\t"
    parse? t = some f ∧ parse? f.text = some f ∧
      ∃ g, parse? r.reference = some g ∧ g.isOf r = true := by
  intro r f t
  obtain ⟨hreference, hparse⟩ := parse?_reference r t
  have ht : parse? t = some f := by decide +kernel
  exact ⟨ht, (hparse f ht).2, hreference.mpr (by decide +kernel)⟩

end CatalogRspec.Reference
