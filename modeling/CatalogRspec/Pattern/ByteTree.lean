import Std.Data.HashMap
import CatalogRspec.Pattern.Encoding
import CatalogRspec.Pattern.Room

namespace CatalogRspec.Pattern

/-- A link to the state `target` for the bytes from `first` to `last`. -/
structure ByteLink where
  first : Nat
  last : Nat
  target : Nat
deriving Repr, DecidableEq

/-- A table of states by what they hold. Of two that belong in one slot it keeps the later one. -/
structure Seen (α : Type) where
  slots : Nat
  entries : Std.HashMap Nat (α × Nat) := ∅

namespace Seen

variable {α : Type} [BEq α]

def find? (t : Seen α) (hash : UInt64) (a : α) : Option Nat :=
  match t.entries[hash.toNat % t.slots]? with
  | some (b, n) => if a == b then some n else none
  | none => none

def insert (t : Seen α) (hash : UInt64) (a : α) (n : Nat) : Seen α :=
  { t with entries := t.entries.insert (hash.toNat % t.slots) (a, n) }

end Seen

/-- The hash of some numbers: each is mixed in and the sum multiplied by a prime, modulo `2 ^ 64`. -/
def hashOf (ns : List Nat) : UInt64 :=
  ns.foldl (fun h n => (h ^^^ UInt64.ofNat n) * 1099511628211) 14695981039346656037

namespace Forward

abbrev Sharing := StateT (Seen (List ByteLink)) Laying

def linksHash (links : List ByteLink) : UInt64 :=
  hashOf (links.flatMap fun l => [l.first, l.last, l.target])

/-- The state with the given links. -/
def stateOf (links : List ByteLink) : Sharing Nat := do
  let hash := linksHash links
  match (← get).find? hash links with
  | some n => return n
  | none =>
    let n ← Laying.state (Room.byteLinkSize * links.length)
    modify fun t => t.insert hash links n
    return n

/-- A state that may still get links; where the last of them leads to is still open. -/
structure OpenState where
  links : List ByteLink
  last : ByteRange

/-- All links of an open state, whose last one leads to the given state. -/
def OpenState.close (s : OpenState) (target : Nat) : List ByteLink :=
  s.links ++ [⟨s.last.1, s.last.2, target⟩]

/-- Finishes the states of a path, the last one first; gives the state that leads to all of them. -/
def closePath (final : Nat) : List OpenState → Sharing Nat
  | [] => return final
  | s :: below => do stateOf (s.close (← closePath final below))

def openPath (ranges : List ByteRange) : List OpenState := ranges.map fun r => ⟨[], r⟩

def extend (final : Nat) : List OpenState → List ByteRange → Sharing (List OpenState)
  | s :: below, r :: ranges => do
    if s.last = r then return s :: (← extend final below ranges)
    else return ⟨s.close (← closePath final below), r⟩ :: openPath ranges
  | path, [] => return path
  | [], ranges => return openPath ranges

def extendAll (final : Nat) (path : List OpenState) : List (List ByteRange) → Sharing (List OpenState)
  | [] => return path
  | ranges :: rest => do extendAll final (← extend final path ranges) rest

def lay (encodings : List (List ByteRange)) : Laying Unit := do
  let final ← Laying.state 0
  let build : Sharing Nat := do closePath final (← extendAll final [] encodings)
  let _ ← build.run { slots := 10000 }
  return ()

end Forward

namespace Backward

abbrev Sharing := StateT (Seen ByteLink) Laying

/-- The state that leads to `target` by one byte. -/
def stateOf (r : ByteRange) (target : Nat) : Sharing Nat := do
  let hash := hashOf [target, r.1, r.2]
  let link : ByteLink := ⟨r.1, r.2, target⟩
  match (← get).find? hash link with
  | some n => return n
  | none =>
    let n ← Laying.state 0
    modify fun t => t.insert hash link n
    return n

/-- The states for the bytes of one encoding, the first of which is read last. -/
def chain (target : Nat) : List ByteRange → Sharing Nat
  | [] => return target
  | r :: rest => do chain (← stateOf r target) rest

def chains (final : Nat) : List (List ByteRange) → Sharing Unit
  | [] => return ()
  | ranges :: rest => do
    let _ ← chain final ranges
    Laying.add 0 Room.freeLinkSize
    chains final rest

def lay (encodings : List (List ByteRange)) : Laying Unit := do
  let _ ← Laying.state 0
  let final ← Laying.state 0
  let _ ← (chains final encodings).run { slots := 1000 }
  return ()

end Backward

end CatalogRspec.Pattern
