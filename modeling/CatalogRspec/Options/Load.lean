import CatalogRspec.Failure
import CatalogRspec.Files.Access

namespace CatalogRspec.Options

open Files

variable {m : Type → Type} [Monad m]

def load (fs : FileSystem m) (path : Path) : TracedT Failure m Options := do
  let text ← TracedT.liftExcept (.configNotRead path.text) (fs.readText path)
  TracedT.liftExcept (.configNotLoaded path.text) (pure (Config.parse text))

/-- Loads the config at the path, or else the standard one, which need not be there. -/
def loadOrDefault (fs : FileSystem m) (standard : Path) : Option Path → TracedT Failure m Options
  | some path => load fs path
  | none => do
    if ← TracedT.lift (fs.isFile standard) then load fs standard
    else
      TracedT.ofTraced (Traced.report [.configMissing standard.text])
      return {}

end CatalogRspec.Options
