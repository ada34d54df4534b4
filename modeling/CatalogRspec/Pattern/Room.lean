namespace CatalogRspec.Pattern

/-- What the states laid out so far come to: their number, and the bytes of the links in them. -/
structure Room where
  states : Nat := 0
  links : Nat := 0
deriving Repr, DecidableEq

namespace Room

def stateSize : Nat := 32

def byteLinkSize : Nat := 8

def freeLinkSize : Nat := 4

/-- The automaton of a pattern may take this many bytes. -/
def limit : Nat := 10 * 0x100000

def bytes (r : Room) : Nat := stateSize * r.states + r.links

end Room

abbrev Laying := StateT Room Option

namespace Laying

def add (states links : Nat) : Laying Unit := fun r =>
  let r : Room := ⟨r.states + states, r.links + links⟩
  if r.bytes ≤ Room.limit then some ((), r) else none

def state (links : Nat) : Laying Nat := do
  let n := (← get).states
  add 1 links
  return n

/-- Leads on from where a part ends: from a fork by a further link, from any other state for nothing. -/
def leave (fork : Bool) : Laying Unit := if fork then add 0 Room.freeLinkSize else pure ()

end Laying

end CatalogRspec.Pattern
