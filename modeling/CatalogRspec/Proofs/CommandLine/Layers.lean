import CatalogRspec.Proofs.CommandLine.Gathering
import CatalogRspec.Proofs.CommandLine.Stages

namespace CatalogRspec.CommandLine

open Files

theorem mem_excludes_mergeInto (l : CommandLine) (o : Options) (entry : String) :
    entry ∈ (l.mergeInto o).excludes ↔
      (entry ∈ o.excludes ∨ entry ∈ l.excludes) ∧ entry ∉ l.allows := by
  rw [mergeInto_eq, mergedInto]
  simp only [List.mem_filter, List.mem_append, List.mem_eraseDups, decide_eq_true_eq]
  by_cases h : entry ∈ o.excludes <;> simp [h]

theorem mergeInto_exclude_again (l : CommandLine) (o : Options) {before after : List String}
    {entry : String} (hl : l.excludes = before ++ after) (h : entry ∈ before) :
    { l with excludes := before ++ entry :: after }.mergeInto o = l.mergeInto o := by
  unfold mergeInto
  dsimp only
  rw [Options.foldl_exclude_again o h, hl]

theorem outcome_loadOptions_map (standardConfig : Path) (l : CommandLine) (t : Tree) :
    (loadOptions Tree.access standardConfig l t).1.outcome =
      (Options.loadOrDefault Tree.access standardConfig l.configPath? t).1.outcome.map
        l.mergeInto := by
  unfold loadOptions
  rw [TracedT.outcome_bind]
  cases (Options.loadOrDefault Tree.access standardConfig l.configPath? t).1.outcome <;> rfl

theorem mem_iff_timesOf_ne_zero {f : Flag} {us : List Use} :
    .flag f ∈ us ↔ timesOf f us ≠ 0 := by
  rw [timesOf, ne_eq, List.count_eq_zero, not_not]

/-- The excludes of a run are those of the config and then what is new of the command line's, each
once, less whatever the command line allows. References are added to those of the config, and a toggle
is on if either turns it on. To exclude an entry again changes nothing. What a command line has for an
option are the values it gives it, in order, so neither the options nor the run depend on how
different options are interleaved. -/
theorem mergeInto_layers (l : CommandLine) (o : Options) :
    let merged := l.mergeInto o
    (∀ (standardConfig : Path) (t : Tree),
      (Options.loadOrDefault Tree.access standardConfig l.configPath? t).1.outcome = .ok o →
        (loadOptions Tree.access standardConfig l t).1.outcome = .ok merged) ∧
    merged.excludes = (o.excludes ++ (l.excludes.filter (· ∉ o.excludes)).eraseDups).filter
      (· ∉ l.allows) ∧
    merged.onlyInclude = o.onlyInclude ++ l.onlyIncludes ∧
    (merged.md5sums = true ↔ o.md5sums = true ∨ l.md5sums = true) ∧
    (merged.strictContent = true ↔ o.strictContent = true ∨ l.strictContent = true) ∧
    (∀ entry, entry ∈ merged.excludes ↔
      (entry ∈ o.excludes ∨ entry ∈ l.excludes) ∧ entry ∉ l.allows) ∧
    (∀ before entry after, l.excludes = before ++ after → entry ∈ before →
      { l with excludes := before ++ entry :: after }.mergeInto o = merged) ∧
    ∀ as, parse as = .ok l → ∃ us, uses? none as = some us ∧
      l.excludes = valuesOf .exclude us ∧ l.allows = valuesOf .allow us ∧
      l.onlyIncludes = valuesOf .onlyInclude us ∧
      (l.md5sums = true ↔ .flag .md5sums ∈ us) ∧
      (l.strictContent = true ↔ .flag .strictContent ∈ us) ∧
      ∀ bs vs, uses? none bs = some vs → Interleaved us vs →
        parse bs = .ok l ∧
        ∀ {m : Type → Type} [Monad m] (fs : FileSystem m) (standardConfig : Path),
          runArguments fs standardConfig bs = runArguments fs standardConfig as := by
  intro merged
  have hmerged : merged = l.mergedInto o := mergeInto_eq l o
  refine ⟨fun standardConfig t ho => ?_, ?_, ?_, ?_, ?_, mem_excludes_mergeInto l o,
    fun before entry after => mergeInto_exclude_again l o, fun as has => ?_⟩
  · rw [outcome_loadOptions_map, ho]
    rfl
  · rw [hmerged, mergedInto]
  · rw [hmerged, mergedInto]
  · rw [hmerged, mergedInto, Bool.or_eq_true]
  · rw [hmerged, mergedInto, Bool.or_eq_true]
  · obtain ⟨us, hus, htaken⟩ := (parse_eq_ok_iff as l).mp has
    obtain ⟨-, rfl⟩ := (takeAll?_eq_some_iff us l).mp htaken
    refine ⟨us, hus, rfl, rfl, rfl, ?_, ?_, fun bs vs hvs h => ?_⟩
    · rw [mem_iff_timesOf_ne_zero]
      exact decide_eq_true_iff
    · rw [mem_iff_timesOf_ne_zero]
      exact decide_eq_true_iff
    -- Both lines gather the same, and a run depends on nothing else that is in a line.
    · have hbs : parse bs = .ok (gathered us) := (h.parse_iff hus hvs _).mp has
      refine ⟨hbs, fun fs standardConfig => ?_⟩
      rw [runArguments, runArguments, has, hbs]

theorem mergeInto_layers_of_repeated_entries :
    let l : CommandLine := { excludes := ["A", "B", "A", "C"], allows := ["C"], md5sums := true }
    let o : Options := { excludes := ["B", "C", "B"] }
    (l.mergeInto o).excludes = ["B", "B", "A"] ∧
      ∀ {m : Type → Type} [Monad m] (fs : FileSystem m) (standardConfig : Path),
        runArguments fs standardConfig ["-iC", "-mxA", "-xB", "-x", "A", "--exclude=C"] =
          runArguments fs standardConfig ["-x", "A", "-xB", "-xA", "-xC", "-m", "-i", "C"] := by
  intro l o
  have hparse : parse ["-x", "A", "-xB", "-xA", "-xC", "-m", "-i", "C"] = .ok l := by decide +kernel
  obtain ⟨-, hexcludes, -, -, -, -, -, hruns⟩ := mergeInto_layers l o
  obtain ⟨us, hus, -, -, -, -, -, hinterleaved⟩ := hruns _ hparse
  have huses : uses? none ["-x", "A", "-xB", "-xA", "-xC", "-m", "-i", "C"] = some
      [.setting .exclude "A", .setting .exclude "B", .setting .exclude "A", .setting .exclude "C",
        .flag .md5sums, .setting .allow "C"] := by decide +kernel
  obtain rfl := Option.some.inj (huses.symm.trans hus)
  refine ⟨hexcludes.trans (by decide +kernel), (hinterleaved _
    [.setting .allow "C", .flag .md5sums, .setting .exclude "A", .setting .exclude "B",
      .setting .exclude "A", .setting .exclude "C"] (by decide +kernel) ⟨?_, ?_⟩).2⟩
  · intro s
    cases s <;> rfl
  · intro f
    cases f <;> rfl

end CatalogRspec.CommandLine
