import CatalogRspec.Pattern.Room

namespace CatalogRspec.Pattern.WordTree

/-- The texts that lead on from a state, by their next byte, which is in ascending order. -/
abbrev Group := List (Nat × List (List Nat))

/-- Puts what follows a byte behind the earlier texts with that byte. -/
def Group.insert (byte : Nat) (rest : List Nat) : Group → Group
  | [] => [(byte, [rest])]
  | (b, rests) :: more =>
    if b < byte then (b, rests) :: Group.insert byte rest more
    else if b = byte then (b, rests ++ [rest]) :: more
    else (byte, [rest]) :: (b, rests) :: more

/-- Texts in groups, each of which a text that ends here closes; the last group is still open. -/
structure Groups where
  closed : List Group
  current : Group

/-- A text that ends where no text has led on yet closes only one group. -/
def Groups.add (g : Groups) : List Nat → Groups
  | [] =>
    if g.current.isEmpty && !g.closed.isEmpty && g.closed.all List.isEmpty then g
    else ⟨g.closed ++ [g.current], []⟩
  | byte :: rest => { g with current := g.current.insert byte rest }

def Groups.all (g : Groups) : List Group := g.closed ++ [g.current]

def groupsOf (texts : List (List Nat)) : Groups := texts.foldl Groups.add ⟨[], []⟩

/-- The bytes of the links of a state that reads one byte of a group. -/
def groupLinks (g : Group) : Nat := if g.length ≤ 1 then 0 else Room.byteLinkSize * g.length

/-- A state for each group that is not empty, and a fork to these and to the end of each closed group. -/
def layGroups (g : Groups) : Laying Unit := do
  let full := g.all.filter (!·.isEmpty)
  Laying.add full.length (full.foldl (fun n group => n + groupLinks group) 0)
  Laying.add 1 (Room.freeLinkSize * (full.length + g.closed.length))

/-- The states for several texts, of which none is longer than `depth`. -/
def layTexts : Nat → List (List Nat) → Laying Unit
  | 0, _ => return ()
  | depth + 1, texts => do
    let g := groupsOf texts
    for (_, rests) in g.all.flatten do
      if rests.any (!·.isEmpty) then layTexts depth rests
    layGroups g

def lay (texts : List (List Nat)) : Laying Unit := do
  Laying.add 1 0
  layTexts ((texts.map List.length).foldr max 0 + 1) texts

end CatalogRspec.Pattern.WordTree
