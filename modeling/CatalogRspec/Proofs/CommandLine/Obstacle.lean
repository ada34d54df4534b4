import CatalogRspec.CommandLine.Run
import CatalogRspec.Proofs.Files.Directories
import CatalogRspec.Proofs.Generator.Selection
import CatalogRspec.Proofs.Log.Effects
import CatalogRspec.Proofs.Spec.Offence

namespace CatalogRspec

open Files

namespace Files.Tree

variable {t : Tree} {p : Path}

theorem text_unique {text text' : String} (h : t.read p = .ok (Text.utf8 text))
    (h' : t.read p = .ok (Text.utf8 text')) : text = text' :=
  Except.ok.inj ((readText_eq_ok_iff.mpr h).symm.trans (readText_eq_ok_iff.mpr h'))

theorem read_ne_of_readText {fault : Fault} (h : (access.readText p t).1 = .error fault)
    (text : String) : t.read p ≠ .ok (Text.utf8 text) := by
  intro hread
  cases h.symm.trans (readText_eq_ok_iff.mpr hread)

theorem kind?_of_read {bytes : List UInt8} (h : t.read p = .ok bytes) : t.kind? p ≠ none := by
  intro hnone
  unfold read at h
  unfold kind? at hnone
  cases hl : t.locate p with
  | error e =>
    rw [hl] at h
    cases h
  | ok l =>
    rw [hl] at h hnone
    have hentry : t.entry? l = none := Option.map_eq_none_iff.mp hnone
    simp only [bind, Except.bind, hentry] at h
    cases h

end Files.Tree

namespace CommandLine

/-- The config that counts: the one that is asked for, or else the standard one if it is a file. -/
def activeConfig? (standardConfig : Path) (l : CommandLine) (t : Tree) : Option Path :=
  match l.config with
  | some path => some (Path.ofText path)
  | none => if t.kind? standardConfig = some .file then some standardConfig else none

/-- Options with those of the command line over them: what it excludes anew comes last and once, what
it allows is gone, and whatever either turns on is on. -/
def mergedInto (l : CommandLine) (o : Options) : Options where
  excludes :=
    (o.excludes ++ (l.excludes.filter (· ∉ o.excludes)).eraseDups).filter (· ∉ l.allows)
  onlyInclude := o.onlyInclude ++ l.onlyIncludes
  md5sums := o.md5sums || l.md5sums
  strictContent := o.strictContent || l.strictContent

/-- The options of the config, if one counts, with those of the command line over them. -/
inductive HasOptions (standardConfig : Path) (l : CommandLine) (t : Tree) : Options → Prop where
  | unconfigured (hconfig : l.activeConfig? standardConfig t = none) :
    HasOptions standardConfig l t (l.mergedInto {})
  | configured {p : Path} {text : String} {o : Options}
    (hconfig : l.activeConfig? standardConfig t = some p) (hread : t.read p = .ok (Text.utf8 text))
    (hparse : Config.parse text = .ok o) : HasOptions standardConfig l t (l.mergedInto o)

def HasCatalog (l : CommandLine) (t : Tree) (c : Catalog) : Prop :=
  ∃ path text, l.catalog = some path ∧ t.read (Path.ofText path) = .ok (Text.utf8 text) ∧
    (Catalog.parse text).outcome = .ok c

/-- What keeps a run from making a spec. What is read is to be text. -/
inductive Obstacle (standardConfig : Path) (l : CommandLine) (t : Tree) : Prop where
  | catalogNotGiven (hgiven : l.catalog = none)
  | catalogAbsent {path : String} (hgiven : l.catalog = some path)
    (habsent : t.kind? (Path.ofText path) = none)
  | configUnreadable {p : Path} (hconfig : l.activeConfig? standardConfig t = some p)
    (hread : ∀ text, t.read p ≠ .ok (Text.utf8 text))
  | configMalformed {p : Path} {text : String} {e : Config.Error}
    (hconfig : l.activeConfig? standardConfig t = some p) (hread : t.read p = .ok (Text.utf8 text))
    (hparse : Config.parse text = .error e)
  | catalogUnreadable {path : String} (hgiven : l.catalog = some path)
    (hread : ∀ text, t.read (Path.ofText path) ≠ .ok (Text.utf8 text))
  /-- The text is not JSON, or not of the shape of a catalog. -/
  | catalogMalformed {path text : String} {e : CatalogError} (hgiven : l.catalog = some path)
    (hread : t.read (Path.ofText path) = .ok (Text.utf8 text))
    (hparse : (Catalog.parse text).outcome = .error e)
  | patternInvalid {o : Options} (hoptions : HasOptions standardConfig l t o)
    (hinvalid : o.HasInvalidPattern)
  | contentRefused {o : Options} {c : Catalog} {r : Resource}
    (hoptions : HasOptions standardConfig l t o) (hcatalog : HasCatalog l t c)
    (hstrict : o.strictContent = true) (hmem : r ∈ c.resources) (hkept : o.Keeps r)
    (hoffending : r.IsOffending)

def asked (l : CommandLine) : ClassChoice := l.className.elim .inferred .named

/-- The run comes as far as the class parameters, and these hold a key that is too wide. -/
def MeetsWideKey (standardConfig : Path) (l : CommandLine) (t : Tree) : Prop :=
  ∃ o c, HasOptions standardConfig l t o ∧ HasCatalog l t c ∧ ¬o.HasInvalidPattern ∧
    (RootClass.resolve l.asked c.resources).HasWideKey

end CommandLine

end CatalogRspec
