import CatalogRspec.Generator
import CatalogRspec.Proofs.Filter.Building
import CatalogRspec.Proofs.Literal.KeyWidth
import CatalogRspec.Proofs.Log.Except
import CatalogRspec.Proofs.Log.Traced
import CatalogRspec.Proofs.Spec.Assembly

namespace CatalogRspec

/-- The class parameters hold a key that is too wide for its column. -/
def RootClass.HasWideKey (root : RootClass) : Prop :=
  ∃ params, root.params = some params ∧ Literal.HasWideKey (.object params)

namespace Generator

theorem outcome_emit (g : Generator) (root : RootClass) (rs : List Resource) :
    (g.emit root rs).outcome =
      match Spec.refused? g.options rs with
      | some e => .error (.content e)
      | none => .ok (Spec.lenient g.options g.escapes root rs).text := by
  unfold emit
  rw [Spec.ofResources_eq]
  cases Spec.refused? g.options rs <;> rfl

theorem eq_text_of_outcome_emit {g : Generator} {root : RootClass} {rs : List Resource}
    {text : String} (h : (g.emit root rs).outcome = .ok text) :
    text = (Spec.lenient g.options g.escapes root rs).text := by
  rw [outcome_emit] at h
  split at h
  · cases h
  · exact (Except.ok.inj h).symm

theorem outcome_select (g : Generator) (c : Catalog) :
    (g.select c).outcome =
      match Filter.ofOptions g.options with
      | .error e => .error (.pattern e)
      | .ok f => .ok (RootClass.resolve g.choice c.resources, f.apply c.resources) := by
  unfold select
  cases Filter.ofOptions g.options <;> rfl

theorem outcome_generate (g : Generator) (c : Catalog) :
    (g.generate c).outcome =
      match Filter.ofOptions g.options with
      | .error e => .error (.pattern e)
      | .ok f =>
        (g.emit (RootClass.resolve g.choice c.resources) (f.apply c.resources)).outcome := by
  unfold generate
  rw [Traced.outcome_bind, outcome_select]
  cases Filter.ofOptions g.options <;> rfl

theorem all_isSome_prettyHash?_iff (root : RootClass) :
    (root.params.all fun params => (Literal.prettyHash? params).isSome) = true ↔
      ¬root.HasWideKey := by
  simp only [Option.all_eq_true, Option.isSome_iff_ne_none, ne_eq, Literal.prettyHash?_eq_none_iff,
    RootClass.HasWideKey, not_exists, not_and]

section Bounds

variable (g : Generator) {root : RootClass} (rs : List Resource) {c : Catalog}

theorem emitBounded_of_wide (h : root.HasWideKey) :
    g.emitBounded root rs = ⟨[], .error .keyTooWide⟩ :=
  if_neg fun hall => (all_isSome_prettyHash?_iff root).mp hall h

theorem emitBounded_of_not_wide (h : ¬root.HasWideKey) :
    g.emitBounded root rs = (g.emit root rs).mapError .refused :=
  if_pos ((all_isSome_prettyHash?_iff root).mpr h)

theorem emit_of_emitBounded {rs : List Resource} {text : String}
    (h : (g.emitBounded root rs).outcome = .ok text) :
    ¬root.HasWideKey ∧ (g.emit root rs).outcome = .ok text := by
  have hnarrow : ¬root.HasWideKey := by
    intro hwide
    rw [emitBounded_of_wide g rs hwide] at h
    cases h
  rw [emitBounded_of_not_wide g rs hnarrow, Traced.outcome_mapError] at h
  exact ⟨hnarrow, Except.mapError_eq_ok_iff.mp h⟩

theorem outcome_generateBounded (c : Catalog) :
    (g.generateBounded c).outcome =
      match Filter.ofOptions g.options with
      | .error e => .error (.refused (.pattern e))
      | .ok f =>
        (g.emitBounded (RootClass.resolve g.choice c.resources) (f.apply c.resources)).outcome := by
  unfold generateBounded
  rw [Traced.outcome_bind, Traced.outcome_mapError, outcome_select]
  cases Filter.ofOptions g.options <;> rfl

theorem outcome_generateBounded_of_not_wide
    (h : ¬(RootClass.resolve g.choice c.resources).HasWideKey) :
    (g.generateBounded c).outcome = (g.generate c).outcome.mapError .refused := by
  rw [outcome_generateBounded, outcome_generate]
  cases Filter.ofOptions g.options with
  | error e => rfl
  | ok f =>
    dsimp only
    rw [emitBounded_of_not_wide g _ h]
    rfl

theorem generateBounded_keyTooWide_iff (c : Catalog) :
    (g.generateBounded c).outcome = .error .keyTooWide ↔
      ¬g.options.HasInvalidPattern ∧ (RootClass.resolve g.choice c.resources).HasWideKey := by
  rw [← Filter.exists_ofOptions_iff]
  by_cases h : (RootClass.resolve g.choice c.resources).HasWideKey
  · rw [outcome_generateBounded]
    cases Filter.ofOptions g.options with
    | error e => simp
    | ok f => simp [emitBounded_of_wide g _ h, h]
  · rw [outcome_generateBounded_of_not_wide g h, Except.mapError_eq_error_iff]
    simp [h]

/-- What is refused is refused however wide the keys are. -/
theorem refused_of_generateBounded {e : SpecError}
    (h : (g.generateBounded c).outcome = .error (.refused e)) :
    (g.generate c).outcome = .error e := by
  by_cases hwide : (RootClass.resolve g.choice c.resources).HasWideKey
  · rw [outcome_generateBounded] at h
    rw [outcome_generate]
    cases hfilter : Filter.ofOptions g.options with
    | error bad =>
      rw [hfilter] at h
      cases h
      rfl
    | ok f =>
      rw [hfilter] at h
      dsimp only at h
      rw [emitBounded_of_wide g _ hwide] at h
      cases h
  · rw [outcome_generateBounded_of_not_wide g hwide] at h
    obtain ⟨e', he', hrefused⟩ := Except.mapError_eq_error_iff.mp h
    rw [he', Stop.refused.inj hrefused]

theorem generate_of_generateBounded {text : String} (h : (g.generateBounded c).outcome = .ok text) :
    ¬(RootClass.resolve g.choice c.resources).HasWideKey ∧ (g.generate c).outcome = .ok text := by
  rw [outcome_generateBounded] at h
  rw [outcome_generate]
  cases hfilter : Filter.ofOptions g.options with
  | error bad =>
    rw [hfilter] at h
    cases h
  | ok f =>
    rw [hfilter] at h
    exact emit_of_emitBounded g h

end Bounds

end Generator

end CatalogRspec
