import CatalogRspec.Pattern.Expr

namespace CatalogRspec.Pattern

def isWordChar (unicode : Bool) (c : Char) : Bool :=
  c.isAlphanum || c == '_' || (unicode && c.toNat ≥ 0x80 && wordSet.contains c.toNat)

/-- Whether the condition holds between two characters, of which either may be missing. -/
def Look.holds (l : Look) (before after : Option Char) : Bool :=
  let wordBefore (unicode : Bool) := before.any (isWordChar unicode)
  let wordAfter (unicode : Bool) := after.any (isWordChar unicode)
  match l with
  | .startText => before.isNone
  | .endText => after.isNone
  | .startLine false => before.isNone || before == some '\n'
  | .endLine false => after.isNone || after == some '\n'
  | .startLine true =>
    before.isNone || before == some '\n' || (before == some '\r' && after != some '\n')
  | .endLine true =>
    after.isNone || after == some '\r' || (after == some '\n' && before != some '\r')
  | .boundary u => wordBefore u != wordAfter u
  | .notBoundary u => wordBefore u == wordAfter u
  | .wordStart u => !wordBefore u && wordAfter u
  | .wordEnd u => wordBefore u && !wordAfter u
  | .wordStartHalf u => !wordBefore u
  | .wordEndHalf u => !wordAfter u

abbrev Places := List Nat

def Places.union (s t : Places) : Places := (List.merge s t (· ≤ ·)).eraseDups

/-- Applies `f` up to `count` times, and stops where it changes nothing. -/
def iterate (f : Places → Places) : Nat → Places → Places
  | 0, s => s
  | count + 1, s =>
    let t := f s
    if t == s then s else iterate f count t

/-- The place behind the character at the given place, if it satisfies `p`. -/
def step? (text : Array Char) (p : Char → Bool) (i : Nat) : Option Nat :=
  match text[i]? with
  | some c => if p c then some (i + 1) else none
  | none => none

namespace Expr

mutual

/-- The places where a match that starts at one of the given places may end. -/
def ends (text : Array Char) : Expr → Places → Places
  | .empty, s => s
  | .text cs, s => cs.foldl (fun t c => t.filterMap (step? text (· == c))) s
  | .chars set, s => s.filterMap (step? text fun c => set.contains c.toNat)
  | .look l, s => s.filter fun i => l.holds (if i = 0 then none else text[i - 1]?) text[i]?
  | .capture _ body, s => body.ends text s
  | .concat parts, s => endsOfParts text parts s
  | .alternation branches, s => endsOfBranches text branches s
  | .repetition _ least most body, s =>
    let t := iterate (body.ends text) least s
    let further :=
      match most with
      | some m => m - least
      | none => text.size + 1
    iterate (fun u => t.union (body.ends text u)) further t

def endsOfParts (text : Array Char) : List Expr → Places → Places
  | [], s => s
  | e :: rest, s => endsOfParts text rest (e.ends text s)

def endsOfBranches (text : Array Char) : List Expr → Places → Places
  | [], _ => []
  | e :: rest, s => (e.ends text s).union (endsOfBranches text rest s)

end

def occursIn (e : Expr) (text : String) : Bool :=
  let chars := text.toList.toArray
  !(e.ends chars (List.range (chars.size + 1))).isEmpty

end Expr

end CatalogRspec.Pattern
