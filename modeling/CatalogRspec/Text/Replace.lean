namespace CatalogRspec.Text

/--
Writes `new` for each occurrence of `old`, from left to right and without overlap. The first
argument counts the characters of the last occurrence that are still to be passed over.
-/
def replaceFrom (old new : List Char) : Nat → List Char → List Char
  | _, [] => []
  | skip + 1, _ :: s => replaceFrom old new skip s
  | 0, c :: s =>
    if old.isPrefixOf (c :: s) then new ++ replaceFrom old new (old.length - 1) s
    else c :: replaceFrom old new 0 s

/-- Writes `new` for each occurrence of `old`; an empty `old` occurs nowhere. -/
def replace (old new s : String) : String :=
  if old.isEmpty then s else String.ofList (replaceFrom old.toList new.toList 0 s.toList)

/-- The pieces of the text between occurrences of `sep`, found as `replaceFrom` finds them. -/
def splitFrom (sep : List Char) : Nat → List Char → List (List Char)
  | _, [] => [[]]
  | skip + 1, _ :: s => splitFrom sep skip s
  | 0, c :: s =>
    if sep.isPrefixOf (c :: s) then [] :: splitFrom sep (sep.length - 1) s
    else
      match splitFrom sep 0 s with
      | piece :: pieces => (c :: piece) :: pieces
      | [] => [[c]]

def split (sep s : String) : List String := (splitFrom sep.toList 0 s.toList).map String.ofList

def unlines (lines : List String) : String := String.join (lines.map (· ++ "\n"))

end CatalogRspec.Text
