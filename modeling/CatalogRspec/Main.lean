import CatalogRspec.CommandLine.Run

namespace CatalogRspec

open Files

/-- The number and the description that the system gave for an error. -/
def systemCode : IO.Error → Nat × String
  | .alreadyExists _ code details | .interrupted _ code details
  | .noFileOrDirectory _ code details | .invalidArgument _ code details
  | .permissionDenied _ code details | .resourceExhausted _ code details
  | .inappropriateType _ code details | .noSuchThing _ code details
  | .otherError code details | .resourceBusy code details | .resourceVanished code details
  | .unsupportedOperation code details | .hardwareFault code details
  | .unsatisfiedConstraints code details | .illegalOperation code details
  | .protocolError code details | .timeExpired code details => (code.toNat, details)
  | .unexpectedEof => (0, "unexpected end of file")
  | .userError description => (0, description)

def faultOf (e : IO.Error) : Fault :=
  match systemCode e with
  | (2, _) => .notFound
  | (17, _) => .alreadyExists
  | (20, _) => .notDirectory
  | (21, _) => .isDirectory
  | (36, _) => .nameTooLong
  | (code, description) => .other code description

def attempt {α : Type} (action : IO α) : IO (Except Fault α) := do
  match ← action.toBaseIO with
  | .ok a => return .ok a
  | .error e => return .error (faultOf e)

def kindOnDisk (path : Path) : IO Kind := do
  let place ← IO.FS.realPath path.text
  return if ← place.isDir then .directory else .file

def disk : FileSystem IO where
  kind? path := return (← attempt (kindOnDisk path)).toOption
  read path := attempt (return (← IO.FS.readBinFile path.text).toList)
  write path bytes := attempt (IO.FS.writeBinFile path.text ⟨bytes.toArray⟩)
  createDirectory path := attempt (IO.FS.createDir path.text)

def standardConfig : IO Path := return Path.ofText ((← IO.appDir) / "config.yml").toString

end CatalogRspec

open CatalogRspec in
def main (arguments : List String) : IO UInt32 := do
  let outcome ← CommandLine.runArguments disk (← standardConfig) arguments
  (← IO.getStdout).putStr outcome.stdout
  (← IO.getStderr).putStr outcome.stderr
  return outcome.exitCode.toUInt32
