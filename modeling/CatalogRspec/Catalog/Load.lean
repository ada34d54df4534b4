import CatalogRspec.Failure
import CatalogRspec.Files.Access

namespace CatalogRspec

open Files

variable {m : Type → Type} [Monad m]

def Catalog.load (fs : FileSystem m) (path : Path) : TracedT Failure m Catalog := do
  let text ← TracedT.liftExcept (.catalogNotRead path.text) (fs.readText path)
  TracedT.ofTraced ((Catalog.parse text).mapError (.catalogNotLoaded path.text))

end CatalogRspec
