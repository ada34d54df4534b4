import CatalogRspec.Proofs.Spec.Passages

namespace CatalogRspec

open Json

namespace Content

theorem ofParameter_eq_unusable_iff (p? : Option Value) (v : Value) :
    ofParameter p? = .unusable v ↔ p? = some v ∧ v ≠ .null ∧ ∀ s, v ≠ .string s := by
  cases p? with
  | none => exact iff_of_false nofun fun h => Option.some_ne_none v h.1.symm
  | some w =>
    rw [Option.some.injEq]
    cases w with
    | null => exact iff_of_false nofun fun h => h.2.1 h.1.symm
    | string s => exact iff_of_false nofun fun h => h.2.2 s h.1.symm
    | _ =>
      simp only [ofParameter, Content.unusable.injEq]
      constructor
      · rintro rfl
        simp
      · exact fun h => h.1

theorem ofParameter_eq_text_iff (p? : Option Value) (s : String) :
    ofParameter p? = .text s ↔ p? = some (.string s) := by
  cases p? with
  | none => simp [ofParameter]
  | some w => cases w <;> simp [ofParameter]

end Content

namespace Resource

/-- A plain file that is to be there, if anything is said of that. -/
def IsPlainFile (r : Resource) : Prop :=
  r.type = "File" ∧
  (r.parameters.lookup "ensure" = none ∨ r.parameters.lookup "ensure" = some (.string "file") ∨
    r.parameters.lookup "ensure" = some (.string "present"))

/-- A plain file with content that is neither null nor text. -/
def Offends (r : Resource) (v : Value) : Prop :=
  r.IsPlainFile ∧ r.parameters.lookup "content" = some v ∧ v ≠ .null ∧ ∀ s, v ≠ .string s

def IsOffending (r : Resource) : Prop := ∃ v, r.Offends v

/-- A plain file with this text. -/
def HoldsText (r : Resource) (s : String) : Prop :=
  r.IsPlainFile ∧ r.parameters.lookup "content" = some (.string s)

theorem isPlainFile_iff (r : Resource) :
    (r.isType fileType && r.ensuresPlainFile) = true ↔ r.IsPlainFile := by
  have hensure : r.ensuresPlainFile = true ↔ r.parameters.lookup "ensure" = none ∨
      r.parameters.lookup "ensure" = some (.string "file") ∨
        r.parameters.lookup "ensure" = some (.string "present") := by
    have hlookup : r.parameter? ensureParam = r.parameters.lookup "ensure" := rfl
    unfold ensuresPlainFile
    rw [hlookup]
    cases r.parameters.lookup "ensure" with
    | none => simp
    | some v =>
      cases v with
      | string s => simp
      | _ => simp
  rw [IsPlainFile, Bool.and_eq_true, hensure, isType, beq_iff_eq]
  rfl

theorem content_of_isPlainFile {r : Resource} (h : r.IsPlainFile) :
    r.content = .ofParameter (r.parameters.lookup "content") :=
  if_pos (r.isPlainFile_iff.mpr h)

theorem content_of_not_isPlainFile {r : Resource} (h : ¬r.IsPlainFile) : r.content = .unchecked :=
  if_neg (mt r.isPlainFile_iff.mp h)

theorem content_eq_unusable_iff (r : Resource) (v : Value) :
    r.content = .unusable v ↔ r.Offends v := by
  by_cases hplain : r.IsPlainFile
  · rw [content_of_isPlainFile hplain, Content.ofParameter_eq_unusable_iff]
    exact (and_iff_right hplain).symm
  · rw [content_of_not_isPlainFile hplain]
    exact iff_of_false nofun fun h => hplain h.1

theorem content_eq_text_iff (r : Resource) (s : String) : r.content = .text s ↔ r.HoldsText s := by
  by_cases hplain : r.IsPlainFile
  · rw [content_of_isPlainFile hplain, Content.ofParameter_eq_text_iff]
    exact (and_iff_right hplain).symm
  · rw [content_of_not_isPlainFile hplain]
    exact iff_of_false nofun fun h => hplain h.1

theorem checkedContent?_eq_some_iff (r : Resource) (s : String) :
    r.checkedContent? = some s ↔ r.HoldsText s := by
  rw [← content_eq_text_iff, checkedContent?]
  cases r.content <;> simp

theorem unusable?_eq_some_iff (r : Resource) (e : UnusableContent) :
    r.unusable? = some e ↔ ∃ v, r.Offends v ∧ e = ⟨r.reference, v⟩ := by
  simp only [← content_eq_unusable_iff]
  unfold unusable?
  cases r.content with
  | unusable v => simp [eq_comm]
  | _ => simp

theorem isSome_unusable?_iff (r : Resource) : r.unusable?.isSome = true ↔ r.IsOffending := by
  rw [Option.isSome_iff_exists]
  simp only [unusable?_eq_some_iff, IsOffending]
  constructor
  · rintro ⟨_, v, hv, -⟩
    exact ⟨v, hv⟩
  · rintro ⟨v, hv⟩
    exact ⟨_, v, hv, rfl⟩

theorem unusable?_eq_none_iff (r : Resource) : r.unusable? = none ↔ ¬r.IsOffending := by
  rw [← isSome_unusable?_iff]
  cases r.unusable? <;> simp

instance : DecidablePred IsOffending := fun r => decidable_of_iff _ r.isSome_unusable?_iff

theorem not_isOffending_of_checkedContent? {r : Resource} {s : String}
    (h : r.checkedContent? = some s) : ¬r.IsOffending := by
  rintro ⟨v, hv⟩
  rw [checkedContent?, (content_eq_unusable_iff r v).mpr hv] at h
  cases h

end Resource

namespace Spec

theorem refused?_eq_some_iff (o : Options) (rs : List Resource) (e : UnusableContent) :
    refused? o rs = some e ↔ o.strictContent = true ∧ ∃ before r after v,
      rs = before ++ r :: after ∧ (∀ q ∈ before, ¬q.IsOffending) ∧ r.Offends v ∧
        e = ⟨r.reference, v⟩ := by
  unfold refused?
  cases o.strictContent with
  | false => simp
  | true =>
    simp only [if_true, true_and, List.findSome?_eq_some_iff, Resource.unusable?_eq_some_iff,
      Resource.unusable?_eq_none_iff]
    constructor
    · rintro ⟨before, r, after, rfl, ⟨v, hv, rfl⟩, hbefore⟩
      exact ⟨before, r, after, v, rfl, hbefore, hv, rfl⟩
    · rintro ⟨before, r, after, v, rfl, hbefore, hv, rfl⟩
      exact ⟨before, r, after, rfl, ⟨v, hv, rfl⟩, hbefore⟩

theorem refused?_eq_none_iff (o : Options) (rs : List Resource) :
    refused? o rs = none ↔ o.strictContent = true → ∀ r ∈ rs, ¬r.IsOffending := by
  unfold refused?
  cases o.strictContent with
  | false => simp
  | true => simp only [if_true, List.findSome?_eq_none_iff, Resource.unusable?_eq_none_iff,
      forall_const]

theorem skipped_eq (rs : List Resource) :
    skipped rs = (rs.filter (·.IsOffending)).map Resource.reference := by
  induction rs with
  | nil => rfl
  | cons r rs ih =>
    unfold skipped at ih ⊢
    rw [List.filterMap_cons, List.filter_cons, ih]
    by_cases h : r.IsOffending
    · obtain ⟨v, hv⟩ := h
      have hr : r.IsOffending := ⟨v, hv⟩
      simp only [(Resource.content_eq_unusable_iff r v).mpr hv, hr, decide_true, if_true,
        List.map_cons]
    · have hcontent : ∀ v, r.content ≠ .unusable v := fun v hv =>
        h ⟨v, (Resource.content_eq_unusable_iff r v).mp hv⟩
      cases hc : r.content with
      | unusable v => exact absurd hc (hcontent v)
      | _ => simp [h]

end Spec

end CatalogRspec
