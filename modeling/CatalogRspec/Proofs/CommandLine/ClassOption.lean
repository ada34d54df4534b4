import CatalogRspec.Proofs.CommandLine.Run
import CatalogRspec.Proofs.RootClass.Choice

namespace CatalogRspec

open Files Unicode

namespace CommandLine

variable {l : CommandLine} {t : Tree}

section Choice

variable {path : String} {c : Catalog} {className : Option String}

theorem specText_congr_class (standardConfig : Path) (hgiven : l.catalog = some path)
    (hcatalog : HasCatalog l t c)
    (h : RootClass.resolve { l with className := className }.choice c.resources =
      RootClass.resolve l.choice c.resources) :
    specText Tree.access standardConfig { l with className := className } (Path.ofText path) t =
      specText Tree.access standardConfig l (Path.ofText path) t := by
  have hoptions : loadOptions Tree.access standardConfig { l with className := className } =
      loadOptions Tree.access standardConfig l := rfl
  unfold specText
  rw [hoptions]
  refine TracedT.bind_congr fun o _ => TracedT.bind_congr fun c' hc' => ?_
  rw [reads_loadOptions standardConfig l t, catalogLoad_eq_ok_iff hgiven] at hc'
  obtain rfl := hcatalog.unique hc'
  have hgenerate := Generator.generateBounded_congr_choice { options := o } h
  dsimp only at hgenerate ⊢
  rw [hgenerate]

theorem run_congr_class (standardConfig : Path) (hcatalog : HasCatalog l t c)
    (h : RootClass.resolve { l with className := className }.choice c.resources =
      RootClass.resolve l.choice c.resources) :
    { l with className := className }.run Tree.access standardConfig t =
      l.run Tree.access standardConfig t := by
  have hloaded := hcatalog
  obtain ⟨path, -, hgiven, -⟩ := hloaded
  have hnamed : ({ l with className := className } : CommandLine).catalog = some path := hgiven
  have hrunOn : runOn Tree.access standardConfig { l with className := className }
      (Path.ofText path) t = runOn Tree.access standardConfig l (Path.ofText path) t := by
    unfold runOn
    show StateT.bind (specText Tree.access standardConfig { l with className := className }
      (Path.ofText path) : StateM Tree _) _ t =
        StateT.bind (specText Tree.access standardConfig l (Path.ofText path) : StateM Tree _) _ t
    unfold StateT.bind
    rw [specText_congr_class standardConfig hgiven hcatalog h]
    rfl
  rw [run_of_given hgiven, run_of_given hnamed, hrunOn]

end Choice

end CommandLine

/-- The class behind `main` gives the root class its name in lower case. If it is titled as classes
are, the parameters are those of the first class with that title. Whatever its title is, to name the
class by it or by the name gives the same root class, the same spec and the same run as to leave it to
be inferred. -/
theorem RootClass.resolve_after_main {rs : List Resource} {picked : Resource}
    (h : classAfterMain? rs = some picked) :
    let title := picked.title
    let root := resolve .inferred rs
    titleAfterMain? rs = some title ∧ root.name = some (lowercase title) ∧
    (IsClassTitle title → ∃ before r after, rs = before ++ r :: after ∧ r.IsClassTitled title ∧
      (∀ q ∈ before, ¬q.IsClassTitled title) ∧ root.params = some r.parameters ∧
      ((∀ q ∈ rs, q.IsClassTitled title → q = picked) → r = picked)) ∧
    ∀ name, name = lowercase title ∨ name = title →
      resolve (.named name) rs = root ∧
      (∀ g : Generator, ({ g with choice := .named name } : Generator).generate ⟨rs⟩ =
        ({ g with choice := .inferred } : Generator).generate ⟨rs⟩) ∧
      ∀ (standardConfig : Path) (l : CommandLine) (t : Tree),
        l.className = none → l.HasCatalog t ⟨rs⟩ →
          { l with className := some name }.run Tree.access standardConfig t =
            l.run Tree.access standardConfig t := by
  intro title root
  have hroot : root = ⟨some (lowercase title), classParams? rs (lowercase title)⟩ :=
    resolve_inferred h
  have hpicked := isType_of_classAfterMain h
  refine ⟨?_, ?_, fun htitle => ?_, fun name hname => ?_⟩
  · rw [titleAfterMain?_eq, h]
    rfl
  · rw [hroot]
  · obtain ⟨before, r, after, hrs, hr, hbefore, hparams⟩ :=
      classParams?_lowercase htitle ⟨picked, hpicked.1, hpicked.2, rfl⟩
    refine ⟨before, r, after, hrs, hr, hbefore, ?_, fun hunique => ?_⟩
    · rw [hroot, hparams]
    · exact hunique r (hrs ▸ List.mem_append_right before List.mem_cons_self) hr
  · have hnamed : resolve (.named name) rs = root := resolve_named_of_classAfterMain h hname
    refine ⟨hnamed, fun g => g.generate_congr_choice hnamed, fun standardConfig l t hclass hl => ?_⟩
    have hchoice : l.choice = .inferred := by
      rw [CommandLine.choice, hclass]
    have hsame : resolve { l with className := some name }.choice rs = resolve l.choice rs := by
      rw [hchoice]
      exact hnamed
    exact CommandLine.run_congr_class standardConfig hl hsame

theorem RootClass.resolve_after_main_of_nested_class :
    let picked : Resource := ⟨"Class", "Foo::Bar_2", [("x", .bool true)]⟩
    let rs : List Resource := [⟨"Class", "Settings", []⟩, ⟨"Class", "main", []⟩,
      ⟨"Stage", "main", []⟩, picked, ⟨"Class", "Foo", []⟩]
    classAfterMain? rs = some picked ∧ resolve (.named "foo::bar_2") rs = resolve .inferred rs ∧
      (resolve .inferred rs).params = some picked.parameters := by
  intro picked rs
  have h : classAfterMain? rs = some picked := rfl
  have htitle : IsClassTitle picked.title := by decide +kernel
  have hname : "foo::bar_2" = lowercase picked.title := by
    rw [← String.toList_inj, toList_lowercase_of_ascii (by decide)]
    decide
  obtain ⟨-, -, hparams, hnamed⟩ := resolve_after_main h
  obtain ⟨before, r, after, -, -, -, hr, hunique⟩ := hparams htitle
  have honly : ∀ q ∈ rs, q.IsClassTitled picked.title → q = picked := by
    intro q hq hqt
    simp only [rs, List.mem_cons, List.not_mem_nil, or_false] at hq
    rcases hq with rfl | rfl | rfl | rfl | rfl
    · exact absurd hqt (by decide)
    · exact absurd hqt (by decide)
    · exact absurd hqt (by decide)
    · rfl
    · exact absurd hqt (by decide)
  exact ⟨h, (hnamed _ (.inl hname)).1, hr.trans (by rw [hunique honly])⟩

end CatalogRspec
