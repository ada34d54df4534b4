import CatalogRspec.Proofs.Generator.Outcome
import CatalogRspec.Proofs.Log.Traced
import CatalogRspec.Proofs.Spec.Offence

namespace CatalogRspec.Generator

/-- The generator that checks content by digest, or else line by line. -/
def checkingDigests (g : Generator) (md5sums : Bool) : Generator :=
  { g with options := { g.options with md5sums := md5sums } }

theorem outcome_emit_joined (g : Generator) (root : RootClass) (rs : List Resource) :
    (g.emit root rs).outcome =
      match Spec.refused? g.options rs with
      | some e => .error (.content e)
      | none => .ok (Passage.joined g.options.md5sums g.escapes
          (Spec.passages g.options.onlyInclude.isEmpty root rs)) := by
  rw [outcome_emit]
  cases Spec.refused? g.options rs with
  | some e => rfl
  | none => simp only [Spec.text_eq_joined]

theorem outcome_emitBounded_joined (g : Generator) {root : RootClass} (rs : List Resource)
    (h : ¬root.HasWideKey) :
    (g.emitBounded root rs).outcome =
      match Spec.refused? g.options rs with
      | some e => .error (.refused (.content e))
      | none => .ok (Passage.joined g.options.md5sums g.escapes
          (Spec.passages g.options.onlyInclude.isEmpty root rs)) := by
  rw [emitBounded_of_not_wide g rs h, Traced.outcome_mapError, outcome_emit_joined]
  cases Spec.refused? g.options rs <;> rfl

/-- Both ways of checking content report the same, and end with the same error or give the same
passages, with one check for each file whose content can be checked. Only the line for the digest
library and the bodies of checks tell them apart. Escapes do not matter for digests. -/
theorem emit_checkingDigests (g : Generator) (root : RootClass) (rs : List Resource) :
    let passages := Spec.passages g.options.onlyInclude.isEmpty root rs
    let digests := (g.checkingDigests true).emitBounded root rs
    let lines := (g.checkingDigests false).emitBounded root rs
    digests.events = lines.events ∧
    ((∃ e, digests.outcome = .error e ∧ lines.outcome = .error e) ∨
      (digests.outcome = .ok (Passage.joined true g.escapes passages) ∧
        lines.outcome = .ok (Passage.joined false g.escapes passages))) ∧
    (passages.filterMap Passage.check? = rs.filterMap fun r => r.checkedContent?.map (r, ·)) ∧
    (∀ r s, Resource.checkedContent? r = some s ↔ r.HoldsText s) ∧
    ∀ rules, ({ g.checkingDigests true with escapes := rules }).emitBounded root rs = digests := by
  intro passages digests lines
  have hchecks := Spec.filterMap_check?_passages g.options.onlyInclude.isEmpty root rs
  have htexts := Resource.checkedContent?_eq_some_iff
  by_cases hwide : root.HasWideKey
  · have hstop (g : Generator) := emitBounded_of_wide g rs hwide
    have hdigests : digests = ⟨[], .error .keyTooWide⟩ := hstop _
    have hlines : lines = ⟨[], .error .keyTooWide⟩ := hstop _
    rw [hdigests, hlines]
    exact ⟨rfl, .inl ⟨_, rfl, rfl⟩, hchecks, htexts, fun rules => hstop _⟩
  have hreports (g : Generator) :
      (g.emitBounded root rs).events = Spec.ofResourcesEvents g.options rs :=
    congrArg Traced.events (emitBounded_of_not_wide g rs hwide)
  -- What is reported does not depend on how content is checked.
  have hdigestEvents : digests.events = Spec.ofResourcesEvents g.options rs := hreports _
  have hlineEvents : lines.events = Spec.ofResourcesEvents g.options rs := hreports _
  have hdigests : digests.outcome = match Spec.refused? g.options rs with
      | some e => .error (.refused (.content e))
      | none => .ok (Passage.joined true g.escapes passages) := outcome_emitBounded_joined _ rs hwide
  have hlines : lines.outcome = match Spec.refused? g.options rs with
      | some e => .error (.refused (.content e))
      | none => .ok (Passage.joined false g.escapes passages) := outcome_emitBounded_joined _ rs hwide
  refine ⟨hdigestEvents.trans hlineEvents.symm, ?_, hchecks, htexts, fun rules => ?_⟩
  · rw [hdigests, hlines]
    cases Spec.refused? g.options rs with
    | some e => exact .inl ⟨_, rfl, rfl⟩
    | none => exact .inr ⟨rfl, rfl⟩
  · refine Traced.ext ((hreports _).trans hdigestEvents.symm) ?_
    rw [hdigests, outcome_emitBounded_joined _ rs hwide, Passage.joined_digests _ g.escapes]
    rfl

end CatalogRspec.Generator
