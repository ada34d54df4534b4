import CatalogRspec.Text.Replace

namespace CatalogRspec.Files

/-- Segments between slashes. -/
structure Path where
  isAbsolute : Bool
  segments : List String
deriving Repr, DecidableEq

def isIdle (segment : String) : Bool := segment == "" || segment == "."

/-- The initial parts of a list that are not empty, the longest first. -/
def stems {α : Type} : List α → List (List α)
  | [] => []
  | a :: rest => (stems rest).map (a :: ·) ++ [[a]]

namespace Path

def ofText (text : String) : Path :=
  match text.toList with
  | '/' :: rest => ⟨true, if rest.isEmpty then [] else Text.split "/" (String.ofList rest)⟩
  | [] => ⟨false, []⟩
  | _ => ⟨false, Text.split "/" text⟩

def text (p : Path) : String := (if p.isAbsolute then "/" else "") ++ "/".intercalate p.segments

def isBlank (p : Path) : Bool := !p.isAbsolute && p.segments.isEmpty

/-- Whether the path ends in a slash, and so can only be one of a directory. -/
def endsInSlash (p : Path) : Bool :=
  match p.segments.getLast? with
  | none => p.isAbsolute
  | some s => s == ""

/-- Whether the last of the segments is one that counts: a relative path may start with a dot. -/
def isStop (p : Path) (segments : List String) : Bool :=
  match segments.getLast? with
  | none => false
  | some s => !isIdle s || (!p.isAbsolute && segments == ["."])

/--
The path itself without idle segments at its end, and the directories that lead to it, the nearest
first.
-/
def trail (p : Path) : List Path :=
  ((stems p.segments).filter p.isStop).map fun segments => ⟨p.isAbsolute, segments⟩

/-- The directories that have to be there for a file at the path, the nearest first. -/
def directories (p : Path) : List Path := p.trail.tail

end Path

end CatalogRspec.Files
