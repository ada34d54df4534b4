import CatalogRspec.Catalog.Load
import CatalogRspec.CommandLine.Arguments
import CatalogRspec.Options.Load
import CatalogRspec.Spec.Write

namespace CatalogRspec.CommandLine

open Files

/-- What a run leaves behind for whoever started it. -/
structure Outcome where
  exitCode : Nat
  stdout : String
  stderr : String
deriving Repr, DecidableEq

variable {m : Type → Type} [Monad m]

def loadOptions (fs : FileSystem m) (standardConfig : Path) (l : CommandLine) :
    TracedT Failure m Options := do
  return l.mergeInto (← Options.loadOrDefault fs standardConfig l.configPath?)

def specText (fs : FileSystem m) (standardConfig : Path) (l : CommandLine) (catalog : Path) :
    TracedT Failure m String := do
  let options ← loadOptions fs standardConfig l
  let c ← Catalog.load fs catalog
  let generator : Generator := { options := options, choice := l.choice }
  TracedT.ofTraced ((generator.generateBounded c).mapError (.ofStop catalog.text))

def stderrOf {α : Type} (l : CommandLine) (events : List Event) (outcome : Except Failure α) :
    String :=
  Verbosity.log ⟨l.verbosity⟩ events ++
    match outcome with
    | .ok _ => ""
    | .error f => f.message ++ "\n"

def exitCodeOf {α : Type} : Except Failure α → Nat
  | .ok _ => 0
  | .error f => f.exitCode

/-- Writes the spec for the catalog at the path, once all of it is there. -/
def runOn (fs : FileSystem m) (standardConfig : Path) (l : CommandLine) (catalog : Path) :
    m Outcome := do
  let made ← specText fs standardConfig l catalog
  match made.outcome with
  | .error f => return ⟨f.exitCode, "", l.stderrOf made.events (.error f : Except Failure Unit)⟩
  | .ok spec =>
    let written ← writeSpec fs l.outputPath spec
    return ⟨exitCodeOf written.outcome, "Writing out as " ++ l.outputPath.text ++ "\n",
      l.stderrOf (made.events ++ written.events) written.outcome⟩

def run (fs : FileSystem m) (standardConfig : Path) (l : CommandLine) : m Outcome :=
  match l.catalog with
  | none => return ⟨1, "", "You must specify a catalog file via -c\n"⟩
  | some path => do
    if ← fs.isPresent (Path.ofText path) then runOn fs standardConfig l (Path.ofText path)
    else return ⟨1, "", path ++ ": not found\n"⟩

def runArguments (fs : FileSystem m) (standardConfig : Path) (arguments : List String) : m Outcome :=
  match CommandLine.parse arguments with
  | .error .help => return ⟨0, help, ""⟩
  | .error (.usage e) => return ⟨2, "", e.report⟩
  | .ok l => l.run fs standardConfig

end CatalogRspec.CommandLine
