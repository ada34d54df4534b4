import CatalogRspec.Generator
import CatalogRspec.Proofs.Catalog.Acceptance

namespace CatalogRspec

open Json

theorem Shape.violations_object_congr {ms ns : Members}
    (h : Members.get? ms "resources" = Members.get? ns "resources") :
    violations (.object ms) = violations (.object ns) := by
  simp only [violations, h]

namespace Envelope

theorem unwrap_eq_self {ms : Members} (h : Members.get? ms "data" = none) :
    unwrap (.object ms) = .object ms := by
  simp only [unwrap, h]

theorem unwrap_wrapped {ms : Members} {data : Value} (h : Members.get? ms "data" = some data) :
    ∃ ns, unwrap (.object ms) = .object ns ∧
      Members.get? ns "resources" = some (resourcesOf data) := by
  simp only [unwrap, h]
  exact ⟨_, rfl, Members.get?_insert_self _ _ _⟩

end Envelope

namespace Catalog

theorem ofDocument_congr {a b : Value} {ms ns : Members} (ha : Envelope.unwrap a = .object ms)
    (hb : Envelope.unwrap b = .object ns)
    (h : Members.get? ms "resources" = Members.get? ns "resources") :
    ofDocument a = ofDocument b := by
  have hread : ofJson? (.object ms) = ofJson? (.object ns) := by
    simp only [ofJson?, Value.member?, h]
  simp only [ofDocument, ha, hb, Shape.violations_object_congr h, hread]

theorem ofDocument_without_resources {a : Value} {ms : Members}
    (ha : Envelope.unwrap a = .object ms) (h : Members.get? ms "resources" = none) :
    ofDocument a = .error (.shape [⟨.document, .missing "resources"⟩]) := by
  simp only [ofDocument, ha, Shape.violations, h]

theorem ofDocument_null_resources {a : Value} {ms : Members}
    (ha : Envelope.unwrap a = .object ms) (h : Members.get? ms "resources" = some .null) :
    ofDocument a = .error (.shape [⟨.resources, .mismatch .null .array⟩]) := by
  simp only [ofDocument, ha, Shape.violations, h]

/-- An object and one that holds it as its `data`, among any other members, are the same catalog and
so have the same specs, or both have the wrong shape. The violations are the same too, unless
resources are missing: the envelope then has null for them. -/
theorem ofDocument_wrapped (ms inner : Members) (hinner : Members.get? inner "data" = none)
    (hdata : Members.get? ms "data" = some (.object inner)) :
    ((∃ c, ofDocument (.object ms) = .ok c ∧ ofDocument (.object inner) = .ok c) ∨
      ∃ vs ws, ofDocument (.object ms) = .error (.shape vs) ∧
        ofDocument (.object inner) = .error (.shape ws) ∧
        (Members.contains inner "resources" = true → vs = ws)) ∧
    ∀ g : Generator, (ofDocument (.object ms)).toOption.map g.generate =
      (ofDocument (.object inner)).toOption.map g.generate := by
  have hself := Envelope.unwrap_eq_self hinner
  obtain ⟨ns, hns, hresources⟩ := Envelope.unwrap_wrapped hdata
  rw [Members.contains_eq_isSome]
  cases hr : Members.get? inner "resources" with
  | none =>
    -- The envelope puts null for what is missing, which is another violation.
    have hnull : Members.get? ns "resources" = some .null := by
      simpa [Envelope.resourcesOf, Value.member?, hr] using hresources
    rw [ofDocument_null_resources hns hnull, ofDocument_without_resources hself hr]
    exact ⟨.inr ⟨_, _, rfl, rfl, by simp⟩, fun _ => rfl⟩
  | some v =>
    have hsome : Members.get? ns "resources" = Members.get? inner "resources" := by
      rw [hresources, hr]
      simp [Envelope.resourcesOf, Value.member?, hr]
    rw [ofDocument_congr hns hself hsome]
    refine ⟨?_, fun _ => rfl⟩
    rcases ofDocument_eq_ok_or_shape (.object inner) with ⟨c, hc⟩ | ⟨vs, -, hvs⟩
    · exact .inl ⟨c, hc, hc⟩
    · exact .inr ⟨vs, vs, hvs, hvs, fun _ => rfl⟩

theorem ofDocument_wrapped_beside_stale_resources :
    let service : Value := .object [("type", .string "Service"), ("title", .string "ntpd")]
    let inner : Members := [("name", .string "node"), ("resources", .array [service])]
    let ms : Members := [("resources", .array []), ("data", .object inner), ("version", .null)]
    (Members.get? inner "data" = none ∧ Members.get? ms "data" = some (.object inner)) ∧
      ∃ c, ofDocument (.object ms) = .ok c ∧ ofDocument (.object inner) = .ok c := by
  intro service inner ms
  refine ⟨⟨rfl, rfl⟩, ?_⟩
  rcases (ofDocument_wrapped ms inner rfl rfl).1 with h | ⟨vs, ws, h, -⟩
  · exact h
  · cases h

end Catalog

end CatalogRspec
