import CatalogRspec.Files.Fault
import CatalogRspec.Files.Path
import CatalogRspec.Text.Utf8

namespace CatalogRspec.Files

inductive Kind where
  | file
  | directory
deriving Repr, DecidableEq

/-- The operations on files, with the effects of `m`. -/
structure FileSystem (m : Type → Type) where
  /-- What stands at a path, if anything does. -/
  kind? : Path → m (Option Kind)
  read : Path → m (Except Fault (List UInt8))
  /-- Creates a file, or replaces the content of one. -/
  write : Path → List UInt8 → m (Except Fault Unit)
  /-- Creates one directory in one that is there. -/
  createDirectory : Path → m (Except Fault Unit)

namespace FileSystem

variable {m : Type → Type} [Monad m] (fs : FileSystem m)

def isPresent (p : Path) : m Bool := return (← fs.kind? p).isSome

def isFile (p : Path) : m Bool := return (← fs.kind? p) = some .file

def isDirectory (p : Path) : m Bool := return (← fs.kind? p) = some .directory

def readText (p : Path) : m (Except Fault String) := do
  match ← fs.read p with
  | .error e => return .error e
  | .ok bytes =>
    match Text.ofUtf8? bytes with
    | some text => return .ok text
    | none => return .error .notText

/-- A directory that could not be created may be there already. -/
def acceptDirectory (p : Path) (fault : Fault) : m (Except Fault Unit) := do
  if ← fs.isDirectory p then return .ok () else return .error fault

/--
Creates the first of the directories. If there is nothing to create it in, the others are created
before; they are given with the nearest first.
-/
def createDirectories : List Path → m (Except Fault Unit)
  | [] => return .ok ()
  | p :: above => do
    match ← fs.createDirectory p with
    | .ok () => return .ok ()
    | .error .notFound =>
      match ← createDirectories above with
      | .error e => return .error e
      | .ok () =>
        match ← fs.createDirectory p with
        | .ok () => return .ok ()
        | .error e => fs.acceptDirectory p e
    | .error e => fs.acceptDirectory p e

end FileSystem

end CatalogRspec.Files
