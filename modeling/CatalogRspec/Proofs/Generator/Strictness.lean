import CatalogRspec.Proofs.Generator.CheckModes

namespace CatalogRspec

theorem Event.line_contentSkipped (reference : String) : (contentSkipped reference).line =
    "WARN content is not a string; skipping content check resource=" ++ reference := by
  have hmessage : String.ofList ((contentSkipped reference).message.toList.flatMap maskChar) =
      "content is not a string; skipping content check" := by
    show String.ofList ("content is not a string; skipping content check".toList.flatMap maskChar) = _
    decide +kernel
  rw [line, text, hmessage]
  simp [fields, level, Level.name, ← String.append_assoc]

namespace Generator

def strict (g : Generator) (strictContent : Bool) : Generator :=
  { g with options := { g.options with strictContent := strictContent } }

theorem outcome_emit_eq_error_iff (g : Generator) (root : RootClass) (rs : List Resource)
    (e : SpecError) :
    (g.emit root rs).outcome = .error e ↔
      ∃ e', Spec.refused? g.options rs = some e' ∧ e = .content e' := by
  rw [outcome_emit]
  cases Spec.refused? g.options rs with
  | some e' => simp [eq_comm]
  | none => simp

theorem emit_fails_iff (g : Generator) (root : RootClass) (rs : List Resource) :
    (∃ e, (g.emit root rs).outcome = .error e) ↔
      g.options.strictContent = true ∧ ∃ r ∈ rs, r.IsOffending := by
  simp only [← Resource.isSome_unusable?_iff, ← Spec.exists_refused?_iff,
    outcome_emit_eq_error_iff]
  constructor
  · rintro ⟨_, e', he', -⟩
    exact ⟨e', he'⟩
  · rintro ⟨e', he'⟩
    exact ⟨_, e', he', rfl⟩

theorem outcome_emit_lenient (g : Generator) (root : RootClass) (rs : List Resource) :
    ((g.strict false).emit root rs).outcome =
      .ok (Passage.joined g.options.md5sums g.escapes
        (Spec.passages g.options.onlyInclude.isEmpty root rs)) := by
  rw [outcome_emit_joined, (Spec.refused?_eq_none_iff _ _).mpr (absurd · Bool.false_ne_true)]
  rfl

theorem events_emit_lenient (g : Generator) (root : RootClass) (rs : List Resource) :
    ((g.strict false).emit root rs).events =
      (rs.filter (·.IsOffending)).map fun r => .contentSkipped r.reference := by
  show (Spec.skipped rs).map Event.contentSkipped = _
  rw [Spec.skipped_eq, List.map_map]
  rfl

/-- A run that is not refused gives the text of the lenient run, which then skips nothing. -/
theorem emit_lenient_of_strict {g : Generator} {root : RootClass} {rs : List Resource}
    {text : String} (h : ((g.strict true).emit root rs).outcome = .ok text) :
    (g.strict false).emit root rs = ⟨[], .ok text⟩ := by
  rw [outcome_emit_joined] at h
  cases hrefused : Spec.refused? (g.strict true).options rs with
  | some e =>
    rw [hrefused] at h
    cases h
  | none =>
    rw [hrefused] at h
    have hkept : ∀ r ∈ rs, ¬r.IsOffending := (Spec.refused?_eq_none_iff _ _).mp hrefused rfl
    refine Traced.ext ?_ ?_
    · have hnone : rs.filter (·.IsOffending) = [] := by simpa using hkept
      rw [events_emit_lenient, hnone]
      rfl
    · rw [outcome_emit_lenient]
      exact h

/-- A key that is too wide ends every run. Without one, a run is refused just when it is strict and
some resource has content that cannot be used, and the first such resource is named with that content.
Otherwise no such resource is checked, and each has one warning in its turn. Strictness does not show
in a text. -/
theorem emit_strict (g : Generator) (root : RootClass) (rs : List Resource) :
    let strict := (g.strict true).emitBounded root rs
    let lenient := (g.strict false).emitBounded root rs
    let passages := Spec.passages g.options.onlyInclude.isEmpty root rs
    let named (r : Resource) := r.type ++ "[" ++ r.title ++ "]"
    (root.HasWideKey → g.emitBounded root rs = ⟨[], .error .keyTooWide⟩ ∧
      strict = ⟨[], .error .keyTooWide⟩ ∧ lenient = ⟨[], .error .keyTooWide⟩) ∧
    (¬root.HasWideKey →
      ((∃ e, (g.emitBounded root rs).outcome = .error e) ↔
        g.options.strictContent = true ∧ ∃ r ∈ rs, r.IsOffending) ∧
      (∀ stop, (g.emitBounded root rs).outcome = .error stop → ∃ before r after v,
        rs = before ++ r :: after ∧ (∀ q ∈ before, ¬q.IsOffending) ∧ r.Offends v ∧
        stop = .refused (.content ⟨named r, v⟩) ∧
        (SpecError.content ⟨named r, v⟩).chain =
          [named r ++ ": content is not a string (got " ++ Literal.inspect v ++ ")"]) ∧
      lenient.outcome = .ok (Passage.joined g.options.md5sums g.escapes passages) ∧
      (∀ r s, .checkBody r s ∈ passages → r ∈ rs ∧ ¬r.IsOffending) ∧
      lenient.events = (rs.filter (·.IsOffending)).map (fun r => .contentSkipped (named r)) ∧
      (∀ reference, (Event.contentSkipped reference).line =
        "WARN content is not a string; skipping content check resource=" ++ reference) ∧
      ∀ text, strict.outcome = .ok text →
        lenient.outcome = .ok text ∧ strict.events = [] ∧ lenient.events = []) := by
  intro strict lenient passages named
  refine ⟨fun hwide => ⟨emitBounded_of_wide _ rs hwide, emitBounded_of_wide _ rs hwide,
    emitBounded_of_wide _ rs hwide⟩, fun hnarrow => ?_⟩
  -- Without a wide key each run is the unbounded one, so all clauses come from what is known of that.
  have hstrict : strict = ((g.strict true).emit root rs).mapError .refused :=
    emitBounded_of_not_wide _ rs hnarrow
  have hlenient : lenient = ((g.strict false).emit root rs).mapError .refused :=
    emitBounded_of_not_wide _ rs hnarrow
  have hfails (stop : Stop) : (g.emitBounded root rs).outcome = .error stop ↔
      ∃ e, (g.emit root rs).outcome = .error e ∧ .refused e = stop := by
    rw [emitBounded_of_not_wide g rs hnarrow, Traced.outcome_mapError, Except.mapError_eq_error_iff]
  refine ⟨?_, fun stop hstop => ?_, ?_, fun r s hmem => ?_, ?_, Event.line_contentSkipped,
    fun text htext => ?_⟩
  · rw [← emit_fails_iff]
    simp only [hfails]
    exact ⟨fun ⟨_, e, he, _⟩ => ⟨e, he⟩, fun ⟨e, he⟩ => ⟨_, e, he, rfl⟩⟩
  · obtain ⟨e, he, rfl⟩ := (hfails stop).mp hstop
    obtain ⟨e', he', rfl⟩ := (outcome_emit_eq_error_iff g root rs e).mp he
    obtain ⟨-, before, r, after, v, hrs, hbefore, hv, rfl⟩ :=
      (Spec.refused?_eq_some_iff g.options rs e').mp he'
    exact ⟨before, r, after, v, hrs, hbefore, hv, rfl, rfl⟩
  · rw [hlenient, Traced.outcome_mapError, outcome_emit_lenient]
    rfl
  · have hcheck : (r, s) ∈ passages.filterMap Passage.check? :=
      List.mem_filterMap.mpr ⟨_, hmem, rfl⟩
    rw [Spec.filterMap_check?_passages, List.mem_filterMap] at hcheck
    obtain ⟨q, hq, hqs⟩ := hcheck
    obtain ⟨s', hs', hpair⟩ := Option.map_eq_some_iff.mp hqs
    cases hpair
    exact ⟨hq, Resource.not_isOffending_of_checkedContent? hs'⟩
  · rw [hlenient]
    exact events_emit_lenient g root rs
  · rw [hstrict, Traced.outcome_mapError, Except.mapError_eq_ok_iff] at htext
    rw [hlenient, hstrict, emit_lenient_of_strict htext]
    exact ⟨rfl, rfl, rfl⟩

/-- A single key is enough for even the lenient run of nothing to fail. -/
theorem emit_lenient_of_wide_key :
    let root : RootClass := ⟨some "foo", some [(Literal.letters 65535, .bool true)]⟩
    ∃ e, ((({} : Generator).strict false).emitBounded root []).outcome = .error e := by
  intro root
  have hwide : root.HasWideKey := ⟨_, rfl, Literal.hasWideKey_letters (.bool true)⟩
  exact ⟨.keyTooWide, by rw [emitBounded_of_wide _ _ hwide]⟩

end Generator

end CatalogRspec
