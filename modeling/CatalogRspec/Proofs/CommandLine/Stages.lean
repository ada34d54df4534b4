import CatalogRspec.Proofs.CommandLine.Obstacle
import CatalogRspec.Proofs.Options.Merging

namespace CatalogRspec

open Files

theorem Options.outcome_load (p : Path) (t : Tree) :
    (Options.load Tree.access p t).1.outcome =
      (Tree.access.readText p t).1.mapError (Failure.configNotRead p.text) >>= fun text =>
        (Config.parse text).mapError (.configNotLoaded p.text) := by
  unfold Options.load
  rw [TracedT.outcome_bind, TracedT.outcome_liftExcept, TracedT.state_liftExcept,
    Tree.state_readText]
  rfl

theorem Options.load_eq_ok_iff (p : Path) (t : Tree) (o : Options) :
    (Options.load Tree.access p t).1.outcome = .ok o ↔
      ∃ text, t.read p = .ok (Text.utf8 text) ∧ Config.parse text = .ok o := by
  rw [outcome_load]
  simp only [Except.bind_eq_ok_iff, Except.mapError_eq_ok_iff, Tree.readText_eq_ok_iff]

theorem Options.reads_load (p : Path) : TracedT.Reads (Options.load Tree.access p) := by
  refine TracedT.Reads.bind (fun t => ?_) fun text => fun t => rfl
  rw [TracedT.state_liftExcept, Tree.state_readText]

theorem Options.outcome_loadOrDefault (standard : Path) (path? : Option Path) (t : Tree) :
    (Options.loadOrDefault Tree.access standard path? t).1.outcome =
      match path? with
      | some path => (Options.load Tree.access path t).1.outcome
      | none =>
        if t.kind? standard = some .file then (Options.load Tree.access standard t).1.outcome
        else .ok {} := by
  cases path? with
  | some path => rfl
  | none =>
    have hfile : Tree.access.isFile standard t = (decide (t.kind? standard = some .file), t) := rfl
    unfold loadOrDefault
    rw [TracedT.outcome_bind, TracedT.outcome_lift, TracedT.state_lift, hfile]
    by_cases h : t.kind? standard = some .file
    · simp [h]
    · simp [h]

theorem Options.reads_loadOrDefault (standard : Path) (path? : Option Path) :
    TracedT.Reads (Options.loadOrDefault Tree.access standard path?) := by
  cases path? with
  | some path => exact reads_load path
  | none =>
    refine TracedT.Reads.bind (fun t => rfl) fun b => ?_
    cases b with
    | true => exact reads_load standard
    | false => exact (TracedT.Reads.ofTraced _).bind fun _ => .pure _

theorem Catalog.outcome_load (p : Path) (t : Tree) :
    (Catalog.load Tree.access p t).1.outcome =
      (Tree.access.readText p t).1.mapError (Failure.catalogNotRead p.text) >>= fun text =>
        (Catalog.parse text).outcome.mapError (.catalogNotLoaded p.text) := by
  unfold Catalog.load
  rw [TracedT.outcome_bind, TracedT.outcome_liftExcept, TracedT.state_liftExcept,
    Tree.state_readText]
  rfl

theorem Catalog.load_eq_ok_iff (p : Path) (t : Tree) (c : Catalog) :
    (Catalog.load Tree.access p t).1.outcome = .ok c ↔
      ∃ text, t.read p = .ok (Text.utf8 text) ∧ (Catalog.parse text).outcome = .ok c := by
  rw [outcome_load]
  simp only [Except.bind_eq_ok_iff, Except.mapError_eq_ok_iff, Tree.readText_eq_ok_iff]

theorem Catalog.reads_load (p : Path) : TracedT.Reads (Catalog.load Tree.access p) := by
  refine TracedT.Reads.bind (fun t => ?_) fun text => .ofTraced _
  rw [TracedT.state_liftExcept, Tree.state_readText]

namespace CommandLine

variable {standardConfig : Path} {l : CommandLine} {t : Tree}

theorem mergeInto_eq (l : CommandLine) (o : Options) : l.mergeInto o = l.mergedInto o := by
  simp only [mergeInto, mergedInto, Options.foldl_exclude, Options.foldl_allow,
    Options.foldl_addOnlyInclude]

theorem choice_eq (l : CommandLine) : l.choice = l.asked := by
  unfold choice asked
  cases l.className <;> rfl

theorem reads_loadOptions (standardConfig : Path) (l : CommandLine) :
    TracedT.Reads (loadOptions Tree.access standardConfig l) :=
  (Options.reads_loadOrDefault standardConfig l.configPath?).bind fun _ => .pure _

theorem reads_specText (standardConfig : Path) (l : CommandLine) (catalog : Path) :
    TracedT.Reads (specText Tree.access standardConfig l catalog) :=
  (reads_loadOptions standardConfig l).bind fun _ =>
    (Catalog.reads_load catalog).bind fun _ => .ofTraced _

theorem outcome_specText (standardConfig : Path) (l : CommandLine) (catalog : Path) (t : Tree) :
    (specText Tree.access standardConfig l catalog t).1.outcome =
      (loadOptions Tree.access standardConfig l t).1.outcome >>= fun o =>
        (Catalog.load Tree.access catalog t).1.outcome >>= fun c =>
          (Generator.generateBounded { options := o, choice := l.asked } c).outcome.mapError
            (.ofStop catalog.text) := by
  unfold specText
  rw [TracedT.outcome_bind, reads_loadOptions standardConfig l t, choice_eq]
  simp only [TracedT.outcome_bind, TracedT.outcome_ofTraced, Traced.outcome_mapError]

theorem outcome_loadOptions (standardConfig : Path) (l : CommandLine) (t : Tree) :
    (loadOptions Tree.access standardConfig l t).1.outcome =
      match l.activeConfig? standardConfig t with
      | none => .ok (l.mergedInto {})
      | some p => (Options.load Tree.access p t).1.outcome.map l.mergedInto := by
  have hmap : ∀ outcome : Except Failure Options,
      (outcome >>= fun o => .ok (l.mergedInto o)) = outcome.map l.mergedInto := by
    intro outcome
    cases outcome <;> rfl
  unfold loadOptions activeConfig? configPath?
  simp only [mergeInto_eq]
  rw [TracedT.outcome_bind, Options.outcome_loadOrDefault]
  cases l.config with
  | some path => exact hmap _
  | none =>
    by_cases h : t.kind? standardConfig = some .file
    · simp only [Option.map_none, h, if_true]
      exact hmap _
    · simp only [Option.map_none, h, if_false]
      rfl

theorem loadOptions_eq_ok_iff (o : Options) :
    (loadOptions Tree.access standardConfig l t).1.outcome = .ok o ↔
      HasOptions standardConfig l t o := by
  rw [outcome_loadOptions]
  constructor
  · intro h
    cases hconfig : l.activeConfig? standardConfig t with
    | none =>
      simp only [hconfig, Except.ok.injEq] at h
      exact h ▸ .unconfigured hconfig
    | some p =>
      simp only [hconfig] at h
      obtain ⟨o', hloaded, rfl⟩ := Except.map_eq_ok_iff.mp h
      obtain ⟨text, hread, hparse⟩ := (Options.load_eq_ok_iff p t o').mp hloaded
      exact .configured hconfig hread hparse
  · intro h
    cases h with
    | unconfigured hconfig => simp only [hconfig]
    | @configured p text o' hconfig hread hparse =>
      simp only [hconfig]
      have hloaded := (Options.load_eq_ok_iff p t o').mpr ⟨text, hread, hparse⟩
      exact Except.map_eq_ok_iff.mpr ⟨o', hloaded, rfl⟩

theorem obstacle_of_loadOptions {e : Failure}
    (h : (loadOptions Tree.access standardConfig l t).1.outcome = .error e) :
    Obstacle standardConfig l t ∧ e.exitCode = 1 := by
  rw [outcome_loadOptions] at h
  cases hconfig : l.activeConfig? standardConfig t with
  | none =>
    simp only [hconfig] at h
    cases h
  | some p =>
    simp only [hconfig, Options.outcome_load] at h
    have hfailed := Except.bind_eq_error_iff.mp (Except.map_eq_error_iff.mp h)
    rcases hfailed with hread | ⟨text, hread, hparse⟩
    · obtain ⟨fault, hfault, rfl⟩ := Except.mapError_eq_error_iff.mp hread
      exact ⟨.configUnreadable hconfig (Tree.read_ne_of_readText hfault), rfl⟩
    · obtain ⟨e', hbad, rfl⟩ := Except.mapError_eq_error_iff.mp hparse
      have hread := Tree.readText_eq_ok_iff.mp (Except.mapError_eq_ok_iff.mp hread)
      exact ⟨.configMalformed hconfig hread hbad, rfl⟩

theorem HasCatalog.of_given {c : Catalog} {path : String} (h : HasCatalog l t c)
    (hgiven : l.catalog = some path) :
    ∃ text, t.read (Path.ofText path) = .ok (Text.utf8 text) ∧
      (Catalog.parse text).outcome = .ok c := by
  obtain ⟨path', text, hgiven', hread, hparse⟩ := h
  have hpath : path' = path := Option.some.inj (hgiven'.symm.trans hgiven)
  exact ⟨text, hpath ▸ hread, hparse⟩

theorem HasCatalog.unique {c c' : Catalog} (h : HasCatalog l t c) (h' : HasCatalog l t c') :
    c' = c := by
  obtain ⟨path, text, hgiven, hread, hparse⟩ := h
  obtain ⟨text', hread', hparse'⟩ := h'.of_given hgiven
  obtain rfl := Tree.text_unique hread hread'
  exact Except.ok.inj (hparse'.symm.trans hparse)

theorem catalogLoad_eq_ok_iff {path : String} (hgiven : l.catalog = some path) (c : Catalog) :
    (Catalog.load Tree.access (Path.ofText path) t).1.outcome = .ok c ↔ HasCatalog l t c := by
  rw [Catalog.load_eq_ok_iff]
  exact ⟨fun ⟨text, hread, hparse⟩ => ⟨path, text, hgiven, hread, hparse⟩, (·.of_given hgiven)⟩

theorem obstacle_of_catalogLoad {path : String} {e : Failure} (hgiven : l.catalog = some path)
    (h : (Catalog.load Tree.access (Path.ofText path) t).1.outcome = .error e) :
    Obstacle standardConfig l t ∧ e.exitCode = 1 := by
  rw [Catalog.outcome_load] at h
  rcases Except.bind_eq_error_iff.mp h with hread | ⟨text, hread, hparse⟩
  · obtain ⟨fault, hfault, rfl⟩ := Except.mapError_eq_error_iff.mp hread
    exact ⟨.catalogUnreadable hgiven (Tree.read_ne_of_readText hfault), rfl⟩
  · obtain ⟨e', hbad, rfl⟩ := Except.mapError_eq_error_iff.mp hparse
    have hread := Tree.readText_eq_ok_iff.mp (Except.mapError_eq_ok_iff.mp hread)
    exact ⟨.catalogMalformed hgiven hread hbad, rfl⟩

/-- The text of a spec is the one generated from the catalog under the options of the run. -/
theorem specText_eq_ok_iff {path : String} (hgiven : l.catalog = some path) (spec : String) :
    (specText Tree.access standardConfig l (Path.ofText path) t).1.outcome = .ok spec ↔
      ∃ o c, HasOptions standardConfig l t o ∧ HasCatalog l t c ∧
        (Generator.generateBounded { options := o, choice := l.asked } c).outcome = .ok spec := by
  rw [outcome_specText]
  simp only [Except.bind_eq_ok_iff, Except.mapError_eq_ok_iff, loadOptions_eq_ok_iff,
    catalogLoad_eq_ok_iff hgiven, exists_and_left]

theorem obstacle_of_generate {o : Options} {c : Catalog} {e : SpecError}
    (hoptions : HasOptions standardConfig l t o) (hcatalog : HasCatalog l t c)
    (h : (Generator.generate { options := o, choice := l.asked } c).outcome = .error e) :
    Obstacle standardConfig l t := by
  rcases (Generator.outcome_eq_error_iff _ c).mp ⟨e, h⟩ with
    hinvalid | ⟨hstrict, r, hmem, hkept, hoffending⟩
  · exact .patternInvalid hoptions hinvalid
  · exact .contentRefused hoptions hcatalog hstrict hmem hkept hoffending

theorem specText_of_wide {path : String} (hgiven : l.catalog = some path)
    (h : MeetsWideKey standardConfig l t) :
    (specText Tree.access standardConfig l (Path.ofText path) t).1.outcome = .error .keyTooWide := by
  obtain ⟨o, c, hoptions, hcatalog, hvalid, hwide⟩ := h
  have hspec : (Generator.generateBounded { options := o, choice := l.asked } c).outcome =
      .error .keyTooWide := (Generator.generateBounded_keyTooWide_iff _ c).mpr ⟨hvalid, hwide⟩
  rw [outcome_specText, (loadOptions_eq_ok_iff o).mpr hoptions, Except.ok_bind,
    (catalogLoad_eq_ok_iff hgiven c).mpr hcatalog, Except.ok_bind, hspec]
  rfl

theorem obstacle_of_specText {path : String} {e : Failure} (hgiven : l.catalog = some path)
    (hnarrow : ¬MeetsWideKey standardConfig l t)
    (h : (specText Tree.access standardConfig l (Path.ofText path) t).1.outcome = .error e) :
    Obstacle standardConfig l t ∧ e.exitCode = 1 := by
  rw [outcome_specText] at h
  rcases Except.bind_eq_error_iff.mp h with hoptions | ⟨o, hoptions, h⟩
  · exact obstacle_of_loadOptions hoptions
  rcases Except.bind_eq_error_iff.mp h with hcatalog | ⟨c, hcatalog, h⟩
  · exact obstacle_of_catalogLoad hgiven hcatalog
  have hoptions := (loadOptions_eq_ok_iff o).mp hoptions
  have hcatalog := (catalogLoad_eq_ok_iff hgiven c).mp hcatalog
  obtain ⟨stop, hstop, rfl⟩ := Except.mapError_eq_error_iff.mp h
  -- A key that is too wide is ruled out, so the spec was refused.
  cases stop with
  | keyTooWide =>
    obtain ⟨hvalid, hwide⟩ := (Generator.generateBounded_keyTooWide_iff _ c).mp hstop
    exact absurd ⟨o, c, hoptions, hcatalog, hvalid, hwide⟩ hnarrow
  | refused e' =>
    exact ⟨obstacle_of_generate hoptions hcatalog (Generator.refused_of_generateBounded _ hstop), rfl⟩

theorem HasOptions.unique {o o' : Options} (h : HasOptions standardConfig l t o)
    (h' : HasOptions standardConfig l t o') : o' = o :=
  Except.ok.inj (((loadOptions_eq_ok_iff o').mpr h').symm.trans ((loadOptions_eq_ok_iff o).mpr h))

theorem HasOptions.of_active {o : Options} {p : Path} (h : HasOptions standardConfig l t o)
    (hactive : l.activeConfig? standardConfig t = some p) :
    ∃ text o', t.read p = .ok (Text.utf8 text) ∧ Config.parse text = .ok o' := by
  cases h with
  | unconfigured hconfig => cases hconfig.symm.trans hactive
  | @configured q text o' hconfig hread hparse =>
    have hq : q = p := Option.some.inj (hconfig.symm.trans hactive)
    exact ⟨text, o', hq ▸ hread, hparse⟩

theorem not_obstacle_of_generate {o : Options} {c : Catalog} {path : String}
    (hgiven : l.catalog = some path) (hoptions : HasOptions standardConfig l t o)
    (hcatalog : HasCatalog l t c)
    (hgenerates :
      ¬∃ e, (Generator.generate { options := o, choice := l.asked } c).outcome = .error e) :
    ¬Obstacle standardConfig l t := by
  rw [Generator.outcome_eq_error_iff] at hgenerates
  intro hobstacle
  cases hobstacle with
  | catalogNotGiven hnone => cases hnone.symm.trans hgiven
  | catalogAbsent hgiven' habsent =>
    obtain ⟨text, hread, -⟩ := hcatalog.of_given hgiven'
    exact Tree.kind?_of_read hread habsent
  | configUnreadable hconfig hread =>
    obtain ⟨text, o', hread', -⟩ := hoptions.of_active hconfig
    exact hread text hread'
  | configMalformed hconfig hread hparse =>
    obtain ⟨text', o', hread', hparse'⟩ := hoptions.of_active hconfig
    obtain rfl := Tree.text_unique hread hread'
    cases hparse.symm.trans hparse'
  | catalogUnreadable hgiven' hread =>
    obtain ⟨text, hread', -⟩ := hcatalog.of_given hgiven'
    exact hread text hread'
  | catalogMalformed hgiven' hread hparse =>
    obtain ⟨text', hread', hparse'⟩ := hcatalog.of_given hgiven'
    obtain rfl := Tree.text_unique hread hread'
    cases hparse.symm.trans hparse'
  | patternInvalid hoptions' hinvalid =>
    obtain rfl := hoptions.unique hoptions'
    exact hgenerates (.inl hinvalid)
  | contentRefused hoptions' hcatalog' hstrict hmem hkept hoffending =>
    -- The refused content is that of the one catalog and the one set of options that there are.
    obtain rfl := hoptions.unique hoptions'
    obtain rfl := hcatalog.unique hcatalog'
    exact hgenerates (.inr ⟨hstrict, _, hmem, hkept, hoffending⟩)

theorem not_obstacle_of_specText {path spec : String} (hgiven : l.catalog = some path)
    (h : (specText Tree.access standardConfig l (Path.ofText path) t).1.outcome = .ok spec) :
    ¬Obstacle standardConfig l t := by
  obtain ⟨o, c, hoptions, hcatalog, hspec⟩ := (specText_eq_ok_iff hgiven spec).mp h
  refine not_obstacle_of_generate hgiven hoptions hcatalog ?_
  rintro ⟨e, he⟩
  cases he.symm.trans (Generator.generate_of_generateBounded _ hspec).2

end CommandLine

end CatalogRspec
