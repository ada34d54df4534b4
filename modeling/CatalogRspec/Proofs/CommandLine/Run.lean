import CatalogRspec.Proofs.Catalog.Acceptance
import CatalogRspec.Proofs.CommandLine.Stages
import CatalogRspec.Proofs.Json.Reading
import CatalogRspec.Proofs.Spec.Overwriting

namespace CatalogRspec.CommandLine

open Files Json

variable {standardConfig : Path} {l : CommandLine} {t : Tree}

theorem run_of_given {path : String} (hgiven : l.catalog = some path) :
    l.run Tree.access standardConfig t =
      if t.kind? (Path.ofText path) = none then (⟨1, "", path ++ ": not found\n"⟩, t)
      else runOn Tree.access standardConfig l (Path.ofText path) t := by
  have hpresent : Tree.access.isPresent (Path.ofText path) t =
      ((t.kind? (Path.ofText path)).isSome, t) := rfl
  unfold run
  rw [hgiven]
  show (if (Tree.access.isPresent (Path.ofText path) t).1 then _ else _ : StateM Tree Outcome)
    (Tree.access.isPresent (Path.ofText path) t).2 = _
  rw [hpresent]
  cases t.kind? (Path.ofText path) with
  | none => rfl
  | some kind => rfl

theorem specText_of_outcome {catalog : Path} {outcome : Except Failure String}
    (h : (specText Tree.access standardConfig l catalog t).1.outcome = outcome) :
    ∃ events, specText Tree.access standardConfig l catalog t = (⟨events, outcome⟩, t) :=
  ⟨_, Prod.ext (Traced.ext rfl h) (reads_specText standardConfig l catalog t)⟩

theorem runOn_of_error {catalog : Path} {f : Failure} {events : List Event}
    (h : specText Tree.access standardConfig l catalog t = (⟨events, .error f⟩, t)) :
    runOn Tree.access standardConfig l catalog t =
      (⟨f.exitCode, "", l.stderrOf events (.error f : Except Failure Unit)⟩, t) := by
  unfold runOn
  show StateT.bind (specText Tree.access standardConfig l catalog : StateM Tree _) _ t = _
  unfold StateT.bind
  rw [h]
  rfl

theorem runOn_of_ok {catalog : Path} {spec : String} {events : List Event}
    (h : specText Tree.access standardConfig l catalog t = (⟨events, .ok spec⟩, t)) :
    runOn Tree.access standardConfig l catalog t =
      let written := writeSpec Tree.access l.outputPath spec t
      (⟨exitCodeOf written.1.outcome, "Writing out as " ++ l.outputPath.text ++ "\n",
        l.stderrOf (events ++ written.1.events) written.1.outcome⟩, written.2) := by
  unfold runOn
  show StateT.bind (specText Tree.access standardConfig l catalog : StateM Tree _) _ t = _
  unfold StateT.bind
  rw [h]
  rfl

theorem run_of_specText_error {path : String} {f : Failure} (hgiven : l.catalog = some path)
    (hpresent : t.kind? (Path.ofText path) ≠ none)
    (h : (specText Tree.access standardConfig l (Path.ofText path) t).1.outcome = .error f) :
    let r := l.run Tree.access standardConfig t
    r.1.exitCode = f.exitCode ∧ r.1.stdout = "" ∧ r.2 = t := by
  obtain ⟨events, hrun⟩ := specText_of_outcome h
  rw [run_of_given hgiven, if_neg hpresent, runOn_of_error hrun]
  exact ⟨rfl, rfl, rfl⟩

theorem run_of_wide (h : MeetsWideKey standardConfig l t) :
    let r := l.run Tree.access standardConfig t
    r.1.exitCode = 101 ∧ r.1.stdout = "" ∧ r.2 = t := by
  obtain ⟨-, c, -, hcatalog, -⟩ := id h
  obtain ⟨path, text, hgiven, hread, -⟩ := hcatalog
  exact run_of_specText_error hgiven (Tree.kind?_of_read hread) (specText_of_wide hgiven h)

theorem run_of_obstacle (hnarrow : ¬MeetsWideKey standardConfig l t)
    (h : Obstacle standardConfig l t) :
    let r := l.run Tree.access standardConfig t
    r.1.exitCode = 1 ∧ r.1.stdout = "" ∧ r.2 = t := by
  intro r
  cases hgiven : l.catalog with
  | none =>
    have hr : r = (⟨1, "", "You must specify a catalog file via -c\n"⟩, t) := by
      show l.run Tree.access standardConfig t = _
      unfold run
      rw [hgiven]
      rfl
    rw [hr]
    exact ⟨rfl, rfl, rfl⟩
  | some path =>
    by_cases habsent : t.kind? (Path.ofText path) = none
    · have hr : r = _ := run_of_given hgiven
      rw [hr, if_pos habsent]
      exact ⟨rfl, rfl, rfl⟩
    · cases hmade : (specText Tree.access standardConfig l (Path.ofText path) t).1.outcome with
      | ok spec => exact absurd h (not_obstacle_of_specText hgiven hmade)
      | error f =>
        obtain ⟨-, hcode⟩ := obstacle_of_specText hgiven hnarrow hmade
        exact hcode ▸ run_of_specText_error hgiven habsent hmade

/-- A run that nothing keeps from making a spec says so, and goes on to write that spec. -/
theorem run_of_not_obstacle (hnarrow : ¬MeetsWideKey standardConfig l t)
    (h : ¬Obstacle standardConfig l t) :
    ∃ o c spec, HasOptions standardConfig l t o ∧ HasCatalog l t c ∧
      (Generator.generateBounded { options := o, choice := l.asked } c).outcome = .ok spec ∧
      let r := l.run Tree.access standardConfig t
      let output := l.output.getD defaultOutput
      let written := writeSpec Tree.access (Path.ofText output) spec t
      r.1.exitCode = exitCodeOf written.1.outcome ∧
      r.1.stdout = "Writing out as " ++ output ++ "\n" ∧ r.2 = written.2 := by
  cases hgiven : l.catalog with
  | none => exact absurd (.catalogNotGiven hgiven) h
  | some path =>
    have hpresent : t.kind? (Path.ofText path) ≠ none := fun habsent =>
      h (.catalogAbsent hgiven habsent)
    cases hmade : (specText Tree.access standardConfig l (Path.ofText path) t).1.outcome with
    | error f => exact absurd (obstacle_of_specText hgiven hnarrow hmade).1 h
    | ok spec =>
      obtain ⟨o, c, hoptions, hcatalog, hspec⟩ := (specText_eq_ok_iff hgiven spec).mp hmade
      obtain ⟨events, hrun⟩ := specText_of_outcome hmade
      have htext : l.outputPath.text = l.output.getD defaultOutput := Path.text_ofText _
      refine ⟨o, c, spec, hoptions, hcatalog, hspec, ?_⟩
      rw [run_of_given hgiven, if_neg hpresent, runOn_of_ok hrun, htext]
      exact ⟨rfl, rfl, rfl⟩

theorem runArguments_of_parse {arguments : List String} (h : CommandLine.parse arguments = .ok l) :
    runArguments Tree.access standardConfig arguments t = l.run Tree.access standardConfig t := by
  unfold runArguments
  rw [h]

theorem exitCodeOf_eq_zero_iff (outcome : Except Failure Unit) :
    exitCodeOf outcome = 0 ↔ outcome = .ok () := by
  cases outcome with
  | ok u => exact ⟨fun _ => rfl, fun _ => rfl⟩
  | error f =>
    have hcode : f.exitCode ≠ 0 := by cases f <;> exact Nat.succ_ne_zero _
    exact iff_of_false hcode nofun

/-- An accepted command line is run all or not at all. If anything keeps it from making its spec, it
fails, shows nothing and leaves the tree as it is. Otherwise it shows where the spec goes, and it
succeeds just when the spec can be written there; the tree then holds the spec, and is the same
elsewhere but for directories that the file needs. A key that is too wide for its column ends the run
on the way, with a code of its own, and nothing is written then either. -/
theorem runArguments_all_or_nothing {arguments : List String} {l : CommandLine}
    (h : CommandLine.parse arguments = .ok l) (standardConfig : Path) (t : Tree) :
    let r := runArguments Tree.access standardConfig arguments t
    let output := l.output.getD defaultOutput
    (MeetsWideKey standardConfig l t → r.1.exitCode = 101 ∧ r.1.stdout = "" ∧ r.2 = t) ∧
    (¬MeetsWideKey standardConfig l t →
      (Obstacle standardConfig l t → r.1.exitCode = 1 ∧ r.1.stdout = "" ∧ r.2 = t) ∧
      (¬Obstacle standardConfig l t →
        r.1.stdout = "Writing out as " ++ output ++ "\n" ∧
        ∃ o c spec, HasOptions standardConfig l t o ∧ HasCatalog l t c ∧
          (Generator.generateBounded { options := o, choice := l.asked } c).outcome = .ok spec ∧
          (r.1.exitCode = 0 ↔
            (writeSpec Tree.access (Path.ofText output) spec t).1.outcome = .ok ()) ∧
          (r.1.exitCode = 0 → Tree.Written (Path.ofText output) (Text.utf8 spec) t r.2))) := by
  intro r output
  have hr : r = l.run Tree.access standardConfig t := runArguments_of_parse h
  rw [hr]
  -- Only a run that makes its spec touches the tree, and only by writing that.
  refine ⟨run_of_wide, fun hnarrow => ⟨run_of_obstacle hnarrow, fun hfree => ?_⟩⟩
  obtain ⟨o, c, spec, hoptions, hcatalog, hspec, hexit, hstdout, hstate⟩ :=
    run_of_not_obstacle hnarrow hfree
  have hwritten :=
    exitCodeOf_eq_zero_iff (writeSpec Tree.access (Path.ofText output) spec t).1.outcome
  refine ⟨hstdout, o, c, spec, hoptions, hcatalog, hspec, ?_⟩
  rw [hexit, hstate]
  exact ⟨hwritten, fun hzero => written_of_writeSpec (hwritten.mp hzero)⟩

theorem runArguments_all_or_nothing_in_new_directory :
    let t : Tree := ⟨["w"], [(["w"], .directory),
      (["w", "c.json"], .file (Text.utf8 "\x7b\"resources\":[]\x7d"))]⟩
    let r := runArguments Tree.access (Path.ofText "/config.yml") ["-c", "c.json", "-o", "a/b.rb"] t
    r.1.stdout = "Writing out as a/b.rb\n" ∧
      ∃ spec, Tree.Written (Path.ofText "a/b.rb") (Text.utf8 spec) t r.2 := by
  intro t r
  have hparse : CommandLine.parse ["-c", "c.json", "-o", "a/b.rb"] =
      .ok { catalog := some "c.json", output := some "a/b.rb" } := by decide +kernel
  have hexit : r.1.exitCode = 0 := by
    decide +kernel
  obtain ⟨hwide, hrun⟩ := runArguments_all_or_nothing hparse (Path.ofText "/config.yml") t
  -- A run that ends well has met no wide key and no obstacle.
  have hnarrow : ¬MeetsWideKey (Path.ofText "/config.yml")
      { catalog := some "c.json", output := some "a/b.rb" } t := fun h =>
    absurd (hexit.symm.trans (hwide h).1) (by decide)
  have hfree : ¬Obstacle (Path.ofText "/config.yml")
      { catalog := some "c.json", output := some "a/b.rb" } t := fun hobstacle =>
    Nat.zero_ne_one (hexit.symm.trans ((hrun hnarrow).1 hobstacle).1)
  obtain ⟨hstdout, o, c, spec, -, -, -, -, hwritten⟩ := (hrun hnarrow).2 hfree
  exact ⟨hstdout, spec, hwritten hexit⟩

def treeWith (text : String) : Tree :=
  ⟨["w"], [(["w"], .directory), (["w", "c.json"], .file (Text.utf8 text))]⟩

theorem hasCatalog_naming (n : Nat) :
    HasCatalog { catalog := some "c.json" } (treeWith (namingText (Literal.letters n)))
      ⟨[⟨"Class", "main", []⟩, ⟨"Class", "Foo", [(Literal.letters n, .bool true)]⟩]⟩ := by
  refine ⟨"c.json", namingText (Literal.letters n), rfl, ?_, ?_⟩
  · rfl
  · have hnamed : "Class" ≠ "" := by decide
    rw [Catalog.outcome_parse (parse_namingText n)]
    exact (Catalog.ofDocument_eq_ok_iff _ _).mpr ⟨_, _, rfl, rfl,
      .cons ⟨_, rfl, hnamed, rfl, rfl, .inr ⟨rfl, rfl⟩⟩
        (.cons ⟨_, rfl, hnamed, rfl, rfl, .inl rfl⟩ .nil)⟩

theorem hasOptions_treeWith (text : String) :
    HasOptions (Path.ofText "/config.yml") { catalog := some "c.json" } (treeWith text) {} := by
  have hlocate : (treeWith text).locate (Path.ofText "/config.yml") = .ok ["config.yml"] := rfl
  have hkind : (treeWith text).kind? (Path.ofText "/config.yml") = none := by
    unfold Tree.kind?
    rw [hlocate]
    simp [Tree.entry?, treeWith, Entries.get?, List.lookup_cons]
  refine .unconfigured ?_
  unfold activeConfig?
  dsimp only
  rw [hkind]
  rfl

/-- A command line that is right in everything, over a catalog with nothing to be refused, but for a
key that is too wide. -/
theorem runArguments_of_wide_key :
    let t := treeWith (namingText (Literal.letters 65535))
    let standardConfig := Path.ofText "/config.yml"
    let l : CommandLine := { catalog := some "c.json" }
    let r := runArguments Tree.access standardConfig ["-c", "c.json"] t
    CommandLine.parse ["-c", "c.json"] = .ok l ∧ ¬Obstacle standardConfig l t ∧
      r.1.exitCode = 101 ∧ r.1.stdout = "" := by
  intro t standardConfig l r
  have hparse : CommandLine.parse ["-c", "c.json"] = .ok l := by decide +kernel
  have hoptions : HasOptions standardConfig l t {} := hasOptions_treeWith _
  have hcatalog : HasCatalog l t Generator.wideCatalog := hasCatalog_naming 65535
  have hvalid : ¬Options.HasInvalidPattern {} := (Filter.exists_ofOptions_iff {}).mp ⟨.exclude [], rfl⟩
  have hwide : MeetsWideKey standardConfig l t :=
    ⟨_, _, hoptions, hcatalog, hvalid, Generator.hasWideKey_wideCatalog⟩
  refine ⟨hparse, not_obstacle_of_generate rfl hoptions hcatalog ?_, ?_⟩
  · rw [Generator.outcome_eq_error_iff]
    rintro (hinvalid | ⟨hstrict, -⟩)
    · exact hvalid hinvalid
    · cases hstrict
  · have hr : r = l.run Tree.access standardConfig t := runArguments_of_parse hparse
    obtain ⟨hexit, hstdout, -⟩ := run_of_wide hwide
    rw [hr]
    exact ⟨hexit, hstdout⟩

end CatalogRspec.CommandLine
