import CatalogRspec.Catalog.Text
import CatalogRspec.Files.Fault
import CatalogRspec.Generator
import CatalogRspec.Options.Config

namespace CatalogRspec

/-- Why a run ended early. -/
inductive Failure where
  | configNotRead (path : String) (fault : Files.Fault)
  | configNotLoaded (path : String) (e : Config.Error)
  | catalogNotRead (path : String) (fault : Files.Fault)
  | catalogNotLoaded (path : String) (e : CatalogError)
  | specNotGenerated (path : String) (e : SpecError)
  | keyTooWide
  | directoryNotCreated (path : String) (fault : Files.Fault)
  | specNotWritten (path : String) (fault : Files.Fault)

namespace Failure

def ofStop (path : String) : Stop → Failure
  | .refused e => .specNotGenerated path e
  | .keyTooWide => .keyTooWide

/-- A key that is too wide is no error that the program handles; it is stopped there and then. -/
def exitCode : Failure → Nat
  | .keyTooWide => 101
  | _ => 1

def chain : Failure → List String
  | .configNotRead path fault => ["reading config " ++ path, fault.message]
  | .configNotLoaded path e => ("loading config " ++ path) :: e.chain
  | .catalogNotRead path fault => ["reading catalog " ++ path, fault.message]
  | .catalogNotLoaded path e => ("loading catalog " ++ path) :: e.chain
  | .specNotGenerated path e => ("generating spec from " ++ path) :: e.chain
  | .keyTooWide => ["Formatting argument out of range"]
  | .directoryNotCreated path fault => ["creating directory " ++ path, fault.message]
  | .specNotWritten path fault => ["writing " ++ path, fault.message]

def message (f : Failure) : String := ": ".intercalate f.chain

end Failure

end CatalogRspec
