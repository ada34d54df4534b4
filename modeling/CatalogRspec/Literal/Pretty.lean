import CatalogRspec.Literal.Inspect

namespace CatalogRspec.Literal

open Json

def indent (depth : Nat) : String := String.ofList (List.replicate (2 * depth) ' ')

def padTo (width : Nat) (s : String) : String :=
  s ++ String.ofList (List.replicate (width - s.length) ' ')

def keyWidth (members : Members) : Nat :=
  (members.map fun m => (hashKey m.1).length).foldl max 0

def block (opening closing : String) (depth : Nat) (items : List String) : String :=
  opening ++ "\n" ++
    String.intercalate ",\n" (items.map (indent (depth + 1) ++ ·)) ++ "\n" ++
    indent depth ++ closing

mutual

/-- A value that starts `depth` levels deep; what is empty or no container stands on one line. -/
def pretty (depth : Nat) : Value → String
  | .array (v :: rest) => block "[" "]" depth (prettyItems (depth + 1) (v :: rest))
  | .object (m :: rest) =>
    block "\x7b" "\x7d" depth (prettyMembers (depth + 1) (keyWidth (m :: rest)) (m :: rest))
  | v => inspect v

def prettyItems (depth : Nat) : List Value → List String
  | [] => []
  | v :: rest => pretty depth v :: prettyItems depth rest

def prettyMembers (depth width : Nat) : List (String × Value) → List String
  | [] => []
  | (k, v) :: rest =>
    (padTo width (hashKey k) ++ " => " ++ pretty depth v) :: prettyMembers depth width rest

end

def prettyHash (members : Members) : String := pretty 0 (.object members)

/-- Text cannot be padded to more characters than this. -/
def maxWidth : Nat := 65535

mutual

/-- Whether the keys of every hash in the value can be padded to one width. -/
def isPaddable : Value → Bool
  | .array items => areItemsPaddable items
  | .object members => keyWidth members ≤ maxWidth && areMembersPaddable members
  | _ => true

def areItemsPaddable : List Value → Bool
  | [] => true
  | v :: rest => isPaddable v && areItemsPaddable rest

def areMembersPaddable : List (String × Value) → Bool
  | [] => true
  | (_, v) :: rest => isPaddable v && areMembersPaddable rest

end

/-- A hash literal over several lines, if the arrows of all its hashes can be lined up. -/
def prettyHash? (members : Members) : Option String :=
  if isPaddable (.object members) then some (prettyHash members) else none

end CatalogRspec.Literal
