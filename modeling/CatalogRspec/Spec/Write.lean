import CatalogRspec.Failure
import CatalogRspec.Files.Access

namespace CatalogRspec

open Files

variable {m : Type → Type} [Monad m]

/-- Creates the directory that a file at the path would be in, if it would be in one by name. -/
def ensureDirectory (fs : FileSystem m) (path : Path) : m (Except Failure Unit) :=
  match path.directories with
  | [] => return .ok ()
  | parent :: above => do
    return (← fs.createDirectories (parent :: above)).mapError (.directoryNotCreated parent.text)

def writeSpec (fs : FileSystem m) (path : Path) (spec : String) : TracedT Failure m Unit := do
  TracedT.liftExcept id (ensureDirectory fs path)
  TracedT.liftExcept (.specNotWritten path.text) (fs.write path (Text.utf8 spec))
  TracedT.ofTraced (Traced.report [.specWritten path.text spec.utf8ByteSize])

end CatalogRspec
