import CatalogRspec.Proofs.Filter.Keeping
import CatalogRspec.Proofs.Generator.Outcome
import CatalogRspec.Proofs.RootClass.Choice
import CatalogRspec.Proofs.Spec.Layout
import CatalogRspec.Proofs.Spec.Offence

namespace CatalogRspec

/-- The same options without any selection, and with nothing refused. -/
def Options.unselective (o : Options) : Options :=
  { o with excludes := [], onlyInclude := [], strictContent := false }

/-- A part of the text of a spec: the frame around the examples, the block of a resource, or the
example that compiles the catalog. -/
inductive SpecPart where
  | frame (text : String)
  | block (r : Resource) (text : String)
  | compiling (text : String)

namespace SpecPart

def text : SpecPart → String
  | .frame text => text
  | .block _ text => text
  | .compiling text => text

/-- What is not cut out: the frame, the blocks of the resources that are kept, and the compiling
example unless only some resources were asked for. -/
def Survives (o : Options) : SpecPart → Prop
  | .frame _ => True
  | .block r _ => o.Keeps r
  | .compiling _ => o.onlyInclude = []

def joined (parts : List SpecPart) : String := String.join (parts.map text)

end SpecPart

namespace Generator

def unselective (g : Generator) : Generator := { g with options := g.options.unselective }

def blockText (g : Generator) (r : Resource) : String :=
  Text.unlines (Example.lenient g.options g.escapes r).lines

/-- The parts of the whole spec, before anything is cut out. -/
def parts (g : Generator) (c : Catalog) : List SpecPart :=
  let root := RootClass.resolve g.choice c.resources
  let spec := Spec.lenient g.options g.escapes root c.resources
  [.frame (Text.unlines spec.header), .frame (Text.unlines (Spec.paramsBlock root.params))] ++
    c.resources.map (fun r => .block r (g.blockText r)) ++
    [.compiling (Text.unlines (Spec.compileBlock root.nameOrBlank)), .frame (Text.unlines ["end"])]

end Generator

namespace SpecPart

theorem joined_append (ps qs : List SpecPart) : joined (ps ++ qs) = joined ps ++ joined qs := by
  simp [joined]

theorem joined_blocks (g : Generator) (rs : List Resource) :
    joined (rs.map fun r => .block r (g.blockText r)) = String.join (rs.map g.blockText) := by
  simp [joined, text, Function.comp_def]

end SpecPart

namespace Generator

open Classical in
theorem filter_parts (g : Generator) (c : Catalog) :
    (g.parts c).filter (SpecPart.Survives g.options ·) =
      let root := RootClass.resolve g.choice c.resources
      let spec := Spec.lenient g.options g.escapes root c.resources
      [.frame (Text.unlines spec.header), .frame (Text.unlines (Spec.paramsBlock root.params))] ++
        (c.resources.filter (g.options.Keeps ·)).map (fun r => .block r (g.blockText r)) ++
        (if g.options.onlyInclude.isEmpty then
          [.compiling (Text.unlines (Spec.compileBlock root.nameOrBlank))] else []) ++
        [.frame (Text.unlines ["end"])] := by
  unfold parts
  cases ho : g.options.onlyInclude <;>
    simp [List.filter_map, SpecPart.Survives, Function.comp_def, ho]

open Classical in
theorem text_lenient (g : Generator) (c : Catalog) :
    (Spec.lenient g.options g.escapes (RootClass.resolve g.choice c.resources)
        (c.resources.filter (g.options.Keeps ·))).text =
      SpecPart.joined ((g.parts c).filter (SpecPart.Survives g.options ·)) := by
  let root := RootClass.resolve g.choice c.resources
  let kept := c.resources.filter (g.options.Keeps ·)
  have hheader : (Spec.lenient g.options g.escapes root kept).header =
      (Spec.lenient g.options g.escapes root c.resources).header := rfl
  have hblocks : (kept.map (Example.lenient g.options g.escapes)).map
      (fun e => Text.unlines e.lines) = kept.map g.blockText := by
    simp only [List.map_map, Function.comp_def]
    rfl
  rw [filter_parts, Spec.text_eq, hheader]
  simp only [SpecPart.joined_append, SpecPart.joined_blocks]
  simp only [Spec.lenient, kept, hblocks]
  by_cases ho : g.options.onlyInclude.isEmpty <;>
    simp [SpecPart.joined, SpecPart.text, Text.unlines, ho, root, String.append_assoc]

theorem parts_unselective (g : Generator) (c : Catalog) : g.unselective.parts c = g.parts c := rfl

open Classical in
theorem filter_parts_unselective (g : Generator) (c : Catalog) :
    (g.parts c).filter (SpecPart.Survives g.unselective.options ·) = g.parts c := by
  rw [List.filter_eq_self]
  intro part _
  rw [decide_eq_true_iff]
  cases part with
  | frame text => trivial
  | block r text => simp [SpecPart.Survives, Options.Keeps, unselective, Options.unselective]
  | compiling text => rfl

open Classical in
theorem eq_joined_of_outcome (g : Generator) (c : Catalog) (text : String)
    (h : (g.generate c).outcome = .ok text) :
    text = SpecPart.joined ((g.parts c).filter (SpecPart.Survives g.options ·)) := by
  rw [outcome_generate] at h
  cases hf : Filter.ofOptions g.options with
  | error e => simp [hf] at h
  | ok f =>
    rw [hf] at h
    rw [eq_text_of_outcome_emit h, Filter.apply_eq_filter hf, text_lenient]

theorem outcome_unselective (g : Generator) (c : Catalog) :
    (g.unselective.generate c).outcome = .ok (SpecPart.joined (g.parts c)) := by
  have hf : Filter.ofOptions g.unselective.options = .ok (.exclude []) := rfl
  have hr : Spec.refused? g.unselective.options ((Filter.exclude []).apply c.resources) = none :=
    rfl
  rw [outcome_generate, hf]
  simp only [outcome_emit, hr]
  rw [Filter.apply_eq_filter hf, text_lenient, parts_unselective, filter_parts_unselective]

theorem outcome_eq_error_iff (g : Generator) (c : Catalog) :
    (∃ e, (g.generate c).outcome = .error e) ↔
      g.options.HasInvalidPattern ∨
      (g.options.strictContent = true ∧ ∃ r ∈ c.resources, g.options.Keeps r ∧ r.IsOffending) := by
  rw [outcome_generate]
  cases hf : Filter.ofOptions g.options with
  | error e =>
    have hinvalid := (Filter.ofOptions_eq_error_iff g.options).mp ⟨e, hf⟩
    simp [hinvalid]
  | ok f =>
    have hvalid := (Filter.exists_ofOptions_iff g.options).mp ⟨f, hf⟩
    have hr := Spec.exists_refused?_iff g.options (f.apply c.resources)
    simp only [Filter.mem_apply, Filter.keeps_iff hf, and_assoc, Resource.isSome_unusable?_iff] at hr
    simp only [outcome_emit, hvalid, false_or]
    rw [← hr]
    cases Spec.refused? g.options (f.apply c.resources) <;> simp

theorem refused_generateBounded_iff (g : Generator) (c : Catalog) :
    (∃ e, (g.generateBounded c).outcome = .error (.refused e)) ↔
      g.options.HasInvalidPattern ∨
      (¬(RootClass.resolve g.choice c.resources).HasWideKey ∧ g.options.strictContent = true ∧
        ∃ r ∈ c.resources, g.options.Keeps r ∧ r.IsOffending) := by
  by_cases hwide : (RootClass.resolve g.choice c.resources).HasWideKey
  · rw [outcome_generateBounded, ← Filter.ofOptions_eq_error_iff]
    cases Filter.ofOptions g.options with
    | error e => simp
    | ok f => simp [emitBounded_of_wide g _ hwide, hwide]
  · simp only [outcome_generateBounded_of_not_wide g hwide, Except.mapError_eq_error_iff,
      Stop.refused.injEq, exists_eq_right, outcome_eq_error_iff, hwide, not_false_eq_true, true_and]

open Classical in
/-- The spec without any selection is made unless a class parameter has a key that is too wide. Any
other spec is this one with the blocks of the dropped resources cut out, and the compiling example too
if only some resources were asked for. It is refused if a pattern is invalid, or if the content of a
kept resource is refused, which such a key comes before. -/
theorem generate_cuts (g : Generator) (c : Catalog) :
    let root := RootClass.resolve g.choice c.resources
    (¬root.HasWideKey →
      (g.unselective.generateBounded c).outcome = .ok (SpecPart.joined (g.parts c))) ∧
    (root.HasWideKey → (g.unselective.generateBounded c).outcome = .error .keyTooWide) ∧
    (∀ text, (g.generateBounded c).outcome = .ok text →
      text = SpecPart.joined ((g.parts c).filter (SpecPart.Survives g.options ·))) ∧
    ((g.generateBounded c).outcome = .error .keyTooWide ↔
      ¬g.options.HasInvalidPattern ∧ root.HasWideKey) ∧
    ((∃ e, (g.generateBounded c).outcome = .error (.refused e)) ↔
      g.options.HasInvalidPattern ∨
      (¬root.HasWideKey ∧ g.options.strictContent = true ∧
        ∃ r ∈ c.resources, g.options.Keeps r ∧ r.IsOffending)) := by
  intro root
  refine ⟨fun hnarrow => ?_, fun hwide => ?_, fun text h => ?_,
    generateBounded_keyTooWide_iff g c, refused_generateBounded_iff g c⟩
  · have hbounded := outcome_generateBounded_of_not_wide g.unselective hnarrow
    rw [hbounded, outcome_unselective]
    rfl
  · have hvalid := (Filter.exists_ofOptions_iff g.unselective.options).mp ⟨.exclude [], rfl⟩
    exact (generateBounded_keyTooWide_iff g.unselective c).mpr ⟨hvalid, hwide⟩
  · exact eq_joined_of_outcome g c text (generate_of_generateBounded g h).2

/-- The class behind `main`, with a name that takes 65536 characters as a symbol. -/
def wideCatalog : Catalog :=
  ⟨[⟨"Class", "main", []⟩, ⟨"Class", "Foo", [(Literal.letters 65535, .bool true)]⟩]⟩

theorem resolve_wideCatalog : RootClass.resolve .inferred wideCatalog.resources =
    ⟨some "foo", some [(Literal.letters 65535, .bool true)]⟩ := by
  have hpicked : classAfterMain? wideCatalog.resources =
      some ⟨"Class", "Foo", [(Literal.letters 65535, .bool true)]⟩ := rfl
  have hname : Unicode.lowercase "Foo" = "foo" := by decide +kernel
  have htitle : capitalizeClassName "foo" = "Foo" := by decide +kernel
  rw [RootClass.resolve_inferred hpicked, hname, classParams?, htitle]
  rfl

theorem hasWideKey_wideCatalog :
    (RootClass.resolve .inferred wideCatalog.resources).HasWideKey :=
  ⟨_, by rw [resolve_wideCatalog], Literal.hasWideKey_letters (.bool true)⟩

/-- Not even without a selection is there a spec for that catalog. -/
theorem unselective_wideCatalog :
    ¬∃ text, (({} : Generator).unselective.generateBounded wideCatalog).outcome = .ok text :=
  fun ⟨_, htext⟩ => (generate_of_generateBounded _ htext).1 hasWideKey_wideCatalog

end Generator

end CatalogRspec
