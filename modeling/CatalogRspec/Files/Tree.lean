import CatalogRspec.Files.Access

namespace CatalogRspec.Files

abbrev Location := List String

inductive Entry where
  | directory
  | file (bytes : List UInt8)
deriving Repr, DecidableEq

def Entry.kind : Entry → Kind
  | .directory => .directory
  | .file _ => .file

abbrev Entries := List (Location × Entry)

def Entries.get? (es : Entries) (l : Location) : Option Entry := es.lookup l

/-- Replaces the entry at the location, or adds one behind all others. -/
def Entries.put : Entries → Location → Entry → Entries
  | [], l, e => [(l, e)]
  | (k, old) :: rest, l, e => if k = l then (l, e) :: rest else (k, old) :: put rest l e

/-- What stands below the root, and the place where relative paths start. -/
structure Tree where
  workingDirectory : Location
  entries : Entries

namespace Tree

def entry? (t : Tree) (l : Location) : Option Entry :=
  if l = [] then some .directory else t.entries.get? l

def put (t : Tree) (l : Location) (e : Entry) : Tree := { t with entries := t.entries.put l e }

def maxNameBytes : Nat := 255

def maxPathBytes : Nat := 4095

/-- One segment further. The root is above itself. -/
def step (t : Tree) (l : Location) (segment : String) : Except Fault Location :=
  match t.entry? l with
  | none => .error .notFound
  | some (.file _) => .error .notDirectory
  | some .directory =>
    if isIdle segment then .ok l
    else if segment == ".." then .ok l.dropLast
    else if segment.utf8ByteSize > maxNameBytes then .error .nameTooLong
    else .ok (l ++ [segment])

def follow (t : Tree) (l : Location) (segments : List String) : Except Fault Location :=
  segments.foldlM t.step l

def start (t : Tree) (p : Path) : Location := if p.isAbsolute then [] else t.workingDirectory

/-- Paths that lead nowhere in any tree. -/
def checkPath (p : Path) : Except Fault Unit :=
  if p.isBlank then .error .notFound
  else if p.text.toList.contains (Char.ofNat 0) then .error .nulInName
  else if p.text.utf8ByteSize > maxPathBytes then .error .nameTooLong
  else .ok ()

def locate (t : Tree) (p : Path) : Except Fault Location := do
  checkPath p
  t.follow (t.start p) p.segments

def locateFile (t : Tree) (p : Path) : Except Fault Location := do
  if p.endsInSlash then
    checkPath p
    let core := (p.segments.reverse.dropWhile (· == "")).reverse
    let l ← t.follow (t.start p) core.dropLast
    let _ ← t.step l "."
    throw .isDirectory
  else t.locate p

def kind? (t : Tree) (p : Path) : Option Kind :=
  match t.locate p with
  | .ok l => (t.entry? l).map (·.kind)
  | .error _ => none

def read (t : Tree) (p : Path) : Except Fault (List UInt8) := do
  let l ← t.locate p
  match t.entry? l with
  | none => throw .notFound
  | some .directory => throw .isDirectory
  | some (.file bytes) => return bytes

def write (t : Tree) (p : Path) (bytes : List UInt8) : Except Fault Tree := do
  let l ← t.locateFile p
  match t.entry? l with
  | some .directory => throw .isDirectory
  | _ => return t.put l (.file bytes)

/-- The path must not end in a slash. -/
def createDirectory (t : Tree) (p : Path) : Except Fault Tree := do
  let l ← t.locate p
  match t.entry? l with
  | some _ => throw .alreadyExists
  | none => return t.put l .directory

/-- A change to the tree; one that fails leaves the tree as it is. -/
def change (f : Tree → Except Fault Tree) : StateM Tree (Except Fault Unit) := fun t =>
  match f t with
  | .ok t => (.ok (), t)
  | .error e => (.error e, t)

def access : FileSystem (StateM Tree) where
  kind? p := return (← get).kind? p
  read p := return (← get).read p
  write p bytes := change (·.write p bytes)
  createDirectory p := change (·.createDirectory p)

end Tree

end CatalogRspec.Files
