import CatalogRspec.Proofs.Generator.Strictness
import CatalogRspec.Proofs.Spec.NullParameters
import Mathlib.Algebra.Order.BigOperators.Group.List
import Mathlib.Algebra.Order.Ring.Nat

namespace CatalogRspec

open Json Text

namespace Resource

variable {named : String → Bool} {r : Resource}

theorem content_withoutNulls_of_ne_unchecked (hdistinct : r.parameters.HasDistinctKeys)
    (h : r.content ≠ .unchecked) : (r.withoutNulls named).content = r.content :=
  content_withoutNulls_of_not_hides hdistinct fun hnamed _ hv =>
    h (content_withoutNulls_of_hides hdistinct hnamed hv).1

theorem isOffending_withoutNulls (hdistinct : r.parameters.HasDistinctKeys) (h : r.IsOffending) :
    (r.withoutNulls named).IsOffending := by
  obtain ⟨v, hv⟩ := h
  have hcontent := (content_eq_unusable_iff r v).mpr hv
  refine ⟨v, (content_eq_unusable_iff _ v).mp ?_⟩
  rw [content_withoutNulls_of_ne_unchecked hdistinct (by rw [hcontent]; nofun), hcontent]

theorem isOffending_withoutNulls_of_hides (hdistinct : r.parameters.HasDistinctKeys)
    (hnamed : named ensureParam = true) {v : Value} (hv : r.HidesContent v)
    (htext : ∀ s, v ≠ .string s) : ¬r.IsOffending ∧ (r.withoutNulls named).IsOffending := by
  obtain ⟨hunchecked, hcontent⟩ := content_withoutNulls_of_hides hdistinct hnamed hv
  constructor
  · rintro ⟨w, hw⟩
    cases hunchecked.symm.trans ((content_eq_unusable_iff r w).mpr hw)
  · refine ⟨v, (content_eq_unusable_iff _ v).mp ?_⟩
    rw [hcontent]
    cases v with
    | null => exact absurd rfl hv.2.2.2
    | string s => exact absurd rfl (htext s)
    | _ => rfl

theorem ofResource_withoutNulls_of_content_eq (o : Options) (rules : EscapeRules)
    (h : (r.withoutNulls named).content = r.content) :
    Example.ofResource o rules (r.withoutNulls named) = Example.ofResource o rules r := by
  unfold Example.ofResource
  rw [h, expectations_withoutNulls]
  rfl

def exampleLength (o : Options) (rules : EscapeRules) (r : Resource) : Nat :=
  (unlines (Example.lenient o rules r).lines).length

/-- Hidden text that shows is checked, and the rest of the example stays. -/
theorem exampleLength_lt_of_hides (o : Options) (rules : EscapeRules)
    (hdistinct : r.parameters.HasDistinctKeys) (hnamed : named ensureParam = true) {s : String}
    (hs : r.HidesContent (.string s)) :
    r.exampleLength o rules < (r.withoutNulls named).exampleLength o rules := by
  obtain ⟨hunchecked, htext⟩ := content_withoutNulls_of_hides hdistinct hnamed hs
  have hnone : r.check? o rules = none := by rw [check?, hunchecked]
  have hsome : (r.withoutNulls named).check? o rules = some (.ofText o rules s) := by
    rw [check?, htext]
    rfl
  have hblock : (Example.lenient o rules (r.withoutNulls named)).block =
      (Example.lenient o rules r).block := by
    simp only [Example.block, Example.lenient, expectations_withoutNulls]
    rfl
  unfold exampleLength Example.lines
  rw [hblock, unlines_append, unlines_append, String.length_append, String.length_append]
  simp only [Example.lenient, hnone, hsome, ContentCheck.block, unlines_append, unlines_cons,
    unlines_nil, String.length_append, String.length_empty]
  have hdo : "' do".length = 4 := rfl
  omega

theorem exampleLength_le (o : Options) (rules : EscapeRules)
    (hdistinct : r.parameters.HasDistinctKeys) :
    r.exampleLength o rules ≤ (r.withoutNulls named).exampleLength o rules := by
  have hsame (h : (r.withoutNulls named).check? o rules = r.check? o rules) :
      r.exampleLength o rules ≤ (r.withoutNulls named).exampleLength o rules := by
    unfold exampleLength Example.lenient
    rw [h, expectations_withoutNulls]
    exact Nat.le_refl _
  -- Only text that shows makes a difference; other content is no check before or after.
  by_cases hhides : named ensureParam = true ∧ ∃ v, r.HidesContent v
  · obtain ⟨hnamed, v, hv⟩ := hhides
    obtain ⟨hunchecked, hcontent⟩ := content_withoutNulls_of_hides hdistinct hnamed hv
    cases v with
    | string s => exact Nat.le_of_lt (exampleLength_lt_of_hides o rules hdistinct hnamed hv)
    | null => exact absurd rfl hv.2.2.2
    | _ => exact hsame (by simp only [check?, hunchecked, hcontent, Content.ofParameter])
  · refine hsame ?_
    rw [check?, check?, content_withoutNulls_of_not_hides hdistinct fun hnamed v hv =>
      hhides ⟨hnamed, v, hv⟩]

end Resource

namespace Spec

theorem exists_length_text_lenient (o : Options) (rules : EscapeRules) (root : RootClass) :
    ∃ frame, ∀ rs, (lenient o rules root rs).text.length =
      frame + (rs.map (·.exampleLength o rules)).sum := by
  let s := lenient o rules root []
  refine ⟨(unlines s.header).length + (unlines (paramsBlock s.params)).length +
    (unlines (if s.compiles then compileBlock s.className else [])).length +
    (unlines ["end"]).length, fun rs => ?_⟩
  have hexamples : (String.join ((lenient o rules root rs).examples.map
      fun e => unlines e.lines)).length = (rs.map (·.exampleLength o rules)).sum := by
    simp only [String.length_join, lenient, List.map_map, Function.comp_def, Resource.exampleLength]
  have hframe : (lenient o rules root rs).header = s.header ∧
      (lenient o rules root rs).params = s.params ∧
      (lenient o rules root rs).compiles = s.compiles ∧
      (lenient o rules root rs).className = s.className := ⟨rfl, rfl, rfl, rfl⟩
  obtain ⟨hheader, hparams, hcompiles, hname⟩ := hframe
  rw [text_eq, hheader, hparams, hcompiles, hname]
  simp only [String.length_append, hexamples]
  omega

end Spec

namespace Generator

variable {rs : List Resource} {named : String → Bool}

theorem emit_withoutNulls_of_content_eq (g : Generator) (root : RootClass)
    (h : ∀ r ∈ rs, (r.withoutNulls named).content = r.content) :
    g.emit root (rs.map (·.withoutNulls named)) = g.emit root rs := by
  have hexamples : (rs.map (·.withoutNulls named)).mapM (Example.ofResource g.options g.escapes) =
      rs.mapM (Example.ofResource g.options g.escapes) := by
    have hmap : rs.map (fun r => Example.ofResource g.options g.escapes (r.withoutNulls named)) =
        rs.map (Example.ofResource g.options g.escapes) :=
      List.map_congr_left fun r hr => Resource.ofResource_withoutNulls_of_content_eq _ _ (h r hr)
    have hid (f : Resource → Except UnusableContent Example) : rs.mapM f = (rs.map f).mapM id :=
      (List.mapM_map (f := f) (g := id)).symm
    rw [List.mapM_map, hid, hid (Example.ofResource g.options g.escapes), ← hmap]
    rfl
  have hskipped : Spec.skipped (rs.map (·.withoutNulls named)) = Spec.skipped rs := by
    unfold Spec.skipped
    rw [List.filterMap_map]
    refine List.filterMap_congr fun r hr => ?_
    simp only [Function.comp_apply, h r hr]
    rfl
  unfold emit Spec.ofResourcesEvents Spec.ofResources
  rw [hexamples, hskipped]

theorem not_hides_text_of_emit_eq {g : Generator} {root : RootClass} {text : String}
    (hdistinct : ∀ r ∈ rs, r.parameters.HasDistinctKeys) (hnamed : named ensureParam = true)
    (htext : (g.emit root rs).outcome = .ok text)
    (hsame : g.emit root (rs.map (·.withoutNulls named)) = g.emit root rs) :
    ∀ r ∈ rs, ∀ s, ¬r.HidesContent (.string s) := by
  intro r hr s hs
  -- All other resources have at least as much text without their nulls, and `r` has more.
  have hnew := eq_text_of_outcome_emit (hsame ▸ htext)
  have hold := eq_text_of_outcome_emit htext
  obtain ⟨frame, hframe⟩ := Spec.exists_length_text_lenient g.options g.escapes root
  have hlength := congrArg String.length (hnew.symm.trans hold)
  rw [hframe, hframe, List.map_map] at hlength
  have hlt := List.sum_lt_sum (fun q => Resource.exampleLength g.options g.escapes q)
    (fun q => Resource.exampleLength g.options g.escapes (q.withoutNulls named))
    (fun q hq => Resource.exampleLength_le _ _ (hdistinct q hq))
    ⟨r, hr, Resource.exampleLength_lt_of_hides _ _ (hdistinct r hr) hnamed hs⟩
  simp only [Function.comp_def] at hlength
  omega

theorem length_skipped_lt {r : Resource} {v : Value}
    (hdistinct : ∀ r ∈ rs, r.parameters.HasDistinctKeys) (hnamed : named ensureParam = true)
    (hr : r ∈ rs) (hv : r.HidesContent v) (hother : ∀ s, v ≠ .string s) :
    (Spec.skipped rs).length < (Spec.skipped (rs.map (·.withoutNulls named))).length := by
  obtain ⟨hbefore, hafter⟩ :=
    Resource.isOffending_withoutNulls_of_hides (hdistinct r hr) hnamed hv hother
  rw [Spec.skipped_eq, Spec.skipped_eq, List.filter_map, List.length_map, List.length_map,
    List.length_map]
  -- Those that offend as they are do so without their nulls, and `r` does only then.
  have hsub : rs.filter (fun q => q.IsOffending) =
      (rs.filter fun q => (q.withoutNulls named).IsOffending).filter fun q => q.IsOffending := by
    rw [List.filter_filter]
    refine List.filter_congr fun q hq => ?_
    have hkept (h : q.IsOffending) : (q.withoutNulls named).IsOffending :=
      Resource.isOffending_withoutNulls (hdistinct q hq) h
    by_cases h : q.IsOffending <;> simp [h, hkept]
  rw [hsub]
  refine List.length_filter_lt_length_iff_exists.mpr ⟨r, ?_, by simpa using hbefore⟩
  exact List.mem_filter.mpr ⟨hr, by simpa using hafter⟩

theorem not_hides_other_of_emit_eq {g : Generator} {root : RootClass} {text : String}
    (hdistinct : ∀ r ∈ rs, r.parameters.HasDistinctKeys) (hnamed : named ensureParam = true)
    (htext : (g.emit root rs).outcome = .ok text)
    (hsame : g.emit root (rs.map (·.withoutNulls named)) = g.emit root rs) :
    ∀ r ∈ rs, ∀ v, (∀ s, v ≠ .string s) → ¬r.HidesContent v := by
  intro r hr v hother hv
  -- Strictly, what shows is refused; otherwise it is one more resource that is reported.
  cases hstrict : g.options.strictContent with
  | true =>
    have hfails := (emit_fails_iff g root (rs.map (·.withoutNulls named))).mpr ⟨hstrict, _,
      List.mem_map_of_mem hr,
      (Resource.isOffending_withoutNulls_of_hides (hdistinct r hr) hnamed hv hother).2⟩
    obtain ⟨e, he⟩ := hfails
    rw [hsame, htext] at he
    cases he
  | false =>
    have hevents : (Spec.skipped (rs.map (·.withoutNulls named))).map Event.contentSkipped =
        (Spec.skipped rs).map Event.contentSkipped := by
      simpa [emit, Spec.ofResourcesEvents, hstrict] using congrArg Traced.events hsame
    have hlength := congrArg List.length hevents
    rw [List.length_map, List.length_map] at hlength
    exact absurd hlength (Nat.ne_of_gt (length_skipped_lt hdistinct hnamed hr hv hother))

/-- Null parameters of any names count as absent, except that a null `ensure` of a file with content
stands in the way of the check of that content: with one of these removed, what is not refused has
another text or reports more. -/
theorem emit_withoutNulls (g : Generator) (root : RootClass) {rs : List Resource}
    (hdistinct : ∀ r ∈ rs, r.parameters.HasDistinctKeys) :
    (∀ named : String → Bool,
      (named ensureParam = true → ∀ r ∈ rs, ∀ v, ¬r.HidesContent v) →
        g.emit root (rs.map (·.withoutNulls named)) = g.emit root rs) ∧
    ∀ text, (g.emit root rs).outcome = .ok text →
      (g.emit root (rs.map (·.withoutNulls fun _ => true)) = g.emit root rs ↔
        ∀ r ∈ rs, ∀ v, ¬r.HidesContent v) := by
  have habsent (named : String → Bool)
      (h : named ensureParam = true → ∀ r ∈ rs, ∀ v, ¬r.HidesContent v) :
      g.emit root (rs.map (·.withoutNulls named)) = g.emit root rs :=
    emit_withoutNulls_of_content_eq g root fun r hr =>
      Resource.content_withoutNulls_of_not_hides (hdistinct r hr) fun hnamed => h hnamed r hr
  refine ⟨habsent, fun text htext => ⟨fun hsame r hr v hv => ?_, fun h => habsent _ fun _ => h⟩⟩
  by_cases hstring : ∃ s, v = .string s
  · obtain ⟨s, rfl⟩ := hstring
    exact not_hides_text_of_emit_eq hdistinct rfl htext hsame r hr s hv
  · exact not_hides_other_of_emit_eq hdistinct rfl htext hsame r hr v (not_exists.mp hstring) hv

/-- Nulls beside no content that could be checked. -/
theorem emit_withoutNulls_of_null_content :
    let file : Resource := ⟨"File", "/a", [("ensure", .null), ("content", .null), ("mode", .null)]⟩
    let run : Resource := ⟨"Exec", "b", [("ensure", .null), ("content", .string "c")]⟩
    (∀ r ∈ [file, run], r.parameters.HasDistinctKeys) ∧
    (∀ r ∈ [file, run], ∀ v, ¬r.HidesContent v) ∧
    ({} : Generator).emit ⟨none, none⟩
        [⟨"File", "/a", []⟩, ⟨"Exec", "b", [("content", .string "c")]⟩] =
      ({} : Generator).emit ⟨none, none⟩ [file, run] := by
  intro file run
  have hdistinct : ∀ r ∈ [file, run], r.parameters.HasDistinctKeys := by decide
  have hnothing : ∀ r ∈ [file, run], ∀ v, ¬r.HidesContent v := by
    intro r hr v hv
    rcases List.mem_pair.mp hr with rfl | rfl
    · exact hv.2.2.2 (Option.some.inj hv.2.2.1).symm
    · exact absurd hv.1 (by decide)
  exact ⟨hdistinct, hnothing,
    (emit_withoutNulls {} ⟨none, none⟩ hdistinct).1 (fun _ => true) fun _ => hnothing⟩

/-- A null `ensure` lets content pass unchecked that is refused without it. -/
theorem emit_null_ensure_hides_content :
    let masked : Resource := ⟨"File", "/a", [("ensure", .null), ("content", .bool true)]⟩
    let strict : Generator := { options := { strictContent := true } }
    (∃ text, (strict.emit ⟨none, none⟩ [masked]).outcome = .ok text) ∧
      (strict.emit ⟨none, none⟩ [masked.withoutNulls fun _ => true]).outcome =
        .error (.content ⟨"File[/a]", .bool true⟩) :=
  ⟨⟨_, rfl⟩, rfl⟩

end Generator

end CatalogRspec
