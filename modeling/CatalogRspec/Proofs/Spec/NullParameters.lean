import CatalogRspec.Proofs.Json.Members
import CatalogRspec.Proofs.Spec.Offence

namespace CatalogRspec

open Json

namespace Resource

/-- The resource without those null parameters that have one of the names. -/
def withoutNulls (named : String → Bool) (r : Resource) : Resource :=
  { r with parameters := r.parameters.filter fun m => !(named m.1 && m.2.isNull) }

/-- A file with content that goes unchecked for no reason but a null `ensure`. -/
def HidesContent (r : Resource) (v : Value) : Prop :=
  r.type = fileType ∧ r.parameter? ensureParam = some .null ∧
    r.parameter? contentParam = some v ∧ v ≠ .null

variable {named : String → Bool} {r : Resource}

theorem parameter?_withoutNulls (hdistinct : r.parameters.HasDistinctKeys) (name : String) :
    (r.withoutNulls named).parameter? name =
      (r.parameter? name).filter fun v => !(named name && v.isNull) :=
  Members.get?_filter hdistinct _ name

theorem expectations_withoutNulls (named : String → Bool) (r : Resource) :
    (r.withoutNulls named).expectations = r.expectations := by
  unfold expectations withoutNulls
  rw [List.filterMap_filter]
  refine List.filterMap_congr fun m _ => ?_
  obtain ⟨name, v⟩ := m
  cases v <;> simp [Value.isNull, isExpected, isType, expectedLiteral?]

theorem ensuresPlainFile_withoutNulls (hdistinct : r.parameters.HasDistinctKeys) :
    (r.withoutNulls named).ensuresPlainFile = true ↔ r.ensuresPlainFile = true ∨
      named ensureParam = true ∧ r.parameter? ensureParam = some .null := by
  unfold ensuresPlainFile
  rw [parameter?_withoutNulls hdistinct]
  cases r.parameter? ensureParam with
  | none => simp
  | some v => cases v <;> cases named ensureParam <;> simp [Value.isNull, Option.filter]

theorem ofParameter_content_withoutNulls (hdistinct : r.parameters.HasDistinctKeys) :
    Content.ofParameter ((r.withoutNulls named).parameter? contentParam) =
      Content.ofParameter (r.parameter? contentParam) := by
  rw [parameter?_withoutNulls hdistinct]
  cases r.parameter? contentParam with
  | none => rfl
  | some v => cases v <;> cases named contentParam <;> rfl

theorem content_withoutNulls_of_hides (hdistinct : r.parameters.HasDistinctKeys)
    (hnamed : named ensureParam = true) {v : Value} (h : r.HidesContent v) :
    r.content = .unchecked ∧ (r.withoutNulls named).content = Content.ofParameter (some v) := by
  obtain ⟨htype, hensure, hcontent, -⟩ := h
  have hplain : (r.withoutNulls named).ensuresPlainFile = true :=
    (ensuresPlainFile_withoutNulls hdistinct).mpr (.inr ⟨hnamed, hensure⟩)
  have htype' : (r.withoutNulls named).type = fileType := htype
  unfold content
  rw [ofParameter_content_withoutNulls hdistinct, hcontent]
  constructor
  · simp [ensuresPlainFile, hensure]
  · simp [isType, htype', hplain]

theorem content_withoutNulls_of_not_hides (hdistinct : r.parameters.HasDistinctKeys)
    (h : named ensureParam = true → ∀ v, ¬r.HidesContent v) :
    (r.withoutNulls named).content = r.content := by
  unfold content
  rw [ofParameter_content_withoutNulls hdistinct]
  have htype : (r.withoutNulls named).isType fileType = r.isType fileType := rfl
  by_cases hnew : r.type = fileType ∧ named ensureParam = true ∧
      r.parameter? ensureParam = some .null
  -- The null `ensure` goes, but there is nothing that it hides.
  · obtain ⟨hfile, hnamed, hensure⟩ := hnew
    have hnothing : Content.ofParameter (r.parameter? contentParam) = .unchecked := by
      cases hcontent : r.parameter? contentParam with
      | none => rfl
      | some v =>
        have hnull : v = .null := by
          by_contra hv
          exact h hnamed v ⟨hfile, hensure, hcontent, hv⟩
        rw [hnull]
        rfl
    rw [hnothing, ite_self, ite_self]
  · have hplain : (r.isType fileType && (r.withoutNulls named).ensuresPlainFile) =
        (r.isType fileType && r.ensuresPlainFile) := by
      rw [Bool.eq_iff_iff]
      simp only [Bool.and_eq_true, ensuresPlainFile_withoutNulls hdistinct, isType, beq_iff_eq]
      exact and_congr_right fun hfile => or_iff_left fun hnull => hnew ⟨hfile, hnull⟩
    rw [htype, hplain]

end Resource

end CatalogRspec
