import CatalogRspec.Pattern.ByteTree
import CatalogRspec.Pattern.Expr
import CatalogRspec.Pattern.WordTree
import CatalogRspec.Text.Utf8

namespace CatalogRspec.Pattern

namespace Laying

abbrev Part := Laying Bool

/-- A state that only leads on. -/
def pass : Part := do
  add 1 0
  return false

/-- The part again and again, each time behind what ended in a fork or not. -/
def follow (p : Part) : Nat → Bool → Part
  | 0, fork => return fork
  | count + 1, fork => do
    leave fork
    follow p count (← p)

def times (p : Part) : Nat → Part
  | 0 => pass
  | count + 1 => do follow p count (← p)

def fork (links : Nat) : Laying Unit := add 1 (Room.freeLinkSize * links)

def optional (p : Part) : Part := do
  fork 2
  let f ← p
  add 1 0
  leave f
  return false

/-- The part any number of times. If it may match nothing, a second fork lets it be passed over. -/
def anyTimes (consumes : Bool) (p : Part) : Part := do
  if consumes then
    fork 1
    leave (← p)
    return true
  else
    let f ← p
    fork 2
    leave f
    fork 2
    add 1 0
    return false

/-- The part at least once: a fork behind the last one leads back to it. -/
def atLeast (consumes : Bool) (p : Part) : Nat → Part
  | 0 => anyTimes consumes p
  | 1 => do
    let f ← p
    fork 1
    leave f
    return true
  | count + 1 => do
    let before ← times p count
    let f ← p
    fork 1
    leave before
    leave f
    return true

/-- The part up to `count` times more, each time behind a fork that leads out. -/
def upTo (p : Part) : Nat → Bool → Part
  | 0, f => do
    leave f
    return false
  | count + 1, f => do
    fork 2
    let g ← p
    leave f
    upTo p count g

def between (p : Part) (least most : Nat) : Part := do
  let f ← times p least
  add 1 0
  upTo p (most - least) f

def repetition (consumes : Bool) (least : Nat) (most : Option Nat) (p : Part) : Part :=
  match most with
  | none => atLeast consumes p least
  | some m =>
    if least = 0 && m = 1 then optional p
    else if least = m then times p m
    else between p least m

def bytesOf (cs : List Char) : Part := do
  add (Expr.textWidth cs) 0
  return false

/-- One byte of several ranges: a state with a link for each, and the one that they lead to. -/
def oneByte (ranges : Nat) : Laying Unit := do
  add 1 0
  add 1 (Room.byteLinkSize * ranges)

def charOf (backward : Bool) (s : Unicode.RangeSet) : Part := do
  if List.all s (·.2 < 0x80) then oneByte s.length
  else if backward then Backward.lay (byteRanges s)
  else Forward.lay (byteRanges s)
  return false

end Laying

namespace Expr

def plainTexts? (branches : List Expr) : Option (List (List Nat)) :=
  branches.mapM fun
    | .text cs => some ((Text.utf8 (String.ofList cs)).map UInt8.toNat)
    | _ => none

open Laying in
mutual

def lay (backward : Bool) : Expr → Part
  | .empty | .look _ => pass
  | .text cs => bytesOf cs
  | .chars s => charOf backward s
  | .capture _ body => do
    if backward then body.lay backward
    else
      add 1 0
      let f ← body.lay backward
      add 1 0
      leave f
      return false
  | .repetition _ least most body =>
    Laying.repetition (body.shortest?.any (0 < ·)) least most (body.lay backward)
  | .concat parts => layParts backward parts
  | .alternation branches =>
    match plainTexts? branches with
    | some texts => do
      WordTree.lay (if backward then texts.map List.reverse else texts)
      return false
    | none => layBranches backward branches

/-- Parts in a row, from the last to the first if the text is read backward. -/
def layParts (backward : Bool) : List Expr → Part
  | [] => pass
  | [e] => e.lay backward
  | e :: rest => do
    if backward then
      leave (← layParts backward rest)
      e.lay backward
    else
      leave (← e.lay backward)
      layParts backward rest

def layBranches (backward : Bool) : List Expr → Part
  | [] => pass
  | [e] => e.lay backward
  | e :: e' :: rest => do
    let f ← e.lay backward
    let g ← e'.lay backward
    fork 2
    add 1 0
    leave f
    leave g
    layMore backward rest

def layMore (backward : Bool) : List Expr → Part
  | [] => return false
  | e :: rest => do
    let f ← e.lay backward
    add 0 Room.freeLinkSize
    leave f
    layMore backward rest

end

/-- What is passed over before a match: nothing if a match can only start at the end of the text. -/
def layLead (anchored : Bool) : Laying.Part := do
  if anchored then Laying.pass
  else Laying.anyTimes true do
    Laying.oneByte 1
    return false

/-- The whole automaton: the lead, the expression as the group with number zero, and the final state. -/
def layAutomaton (backward : Bool) (e : Expr) : Laying Unit := do
  let anchored := if backward then e.endsWith .endText else e.beginsWith .startText
  let lead ← layLead anchored
  let f ← (Expr.capture 0 e).lay backward
  Laying.add 1 0
  Laying.leave f
  Laying.leave lead

/-- Whether the automaton of the expression has enough room in either direction. -/
def fits (e : Expr) : Bool :=
  ((e.layAutomaton false).run {}).isSome && ((e.layAutomaton true).run {}).isSome

end Expr

end CatalogRspec.Pattern
