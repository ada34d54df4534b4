import CatalogRspec.Pattern.NamedClass

namespace CatalogRspec.Pattern

open Unicode

/-- A condition on the characters to the left and right of a place. -/
inductive Look where
  | startText
  | endText
  | startLine (crlf : Bool)
  | endLine (crlf : Bool)
  | boundary (unicode : Bool)
  | notBoundary (unicode : Bool)
  | wordStart (unicode : Bool)
  | wordEnd (unicode : Bool)
  | wordStartHalf (unicode : Bool)
  | wordEndHalf (unicode : Bool)
deriving Repr, DecidableEq

/-- Regular expressions. In normal form a list in a list is spread, characters in a row are one text,
and alternatives share what they have in common at the front. -/
inductive Expr where
  | empty
  | text (cs : List Char)
  | chars (s : RangeSet)
  | look (l : Look)
  | repetition (greedy : Bool) (least : Nat) (most : Option Nat) (body : Expr)
  | capture (number : Nat) (body : Expr)
  | concat (parts : List Expr)
  | alternation (branches : List Expr)

namespace Expr

mutual

def same : Expr → Expr → Bool
  | .empty, .empty => true
  | .text cs, .text ds => cs == ds
  | .chars s, .chars t => s == t
  | .look l, .look m => l == m
  | .repetition g a b e, .repetition h c d f => g == h && a == c && b == d && same e f
  | .capture m e, .capture n f => m == n && same e f
  | .concat es, .concat fs => sameList es fs
  | .alternation es, .alternation fs => sameList es fs
  | _, _ => false

def sameList : List Expr → List Expr → Bool
  | [], [] => true
  | e :: es, f :: fs => same e f && sameList es fs
  | _, _ => false

end

def minLength : List (Option Nat) → Option Nat
  | [] => none
  | [a] => a
  | a :: rest => a.bind fun m => (minLength rest).map (min m)

def maxLength : List (Option Nat) → Option Nat
  | [] => none
  | [a] => a
  | a :: rest => a.bind fun m => (maxLength rest).map (max m)

def sumLength (lengths : List (Option Nat)) : Option Nat :=
  lengths.foldr (fun a b => a.bind fun m => b.map (m + ·)) (some 0)

def charWidth (n : Nat) : Nat := (Char.ofNat n).utf8Size

def textWidth (cs : List Char) : Nat := cs.foldl (fun n c => n + c.utf8Size) 0

mutual

/-- How many bytes a match has at least; `none` if there is no match. -/
def shortest? : Expr → Option Nat
  | .empty | .look _ => some 0
  | .text cs => some (textWidth cs)
  | .chars s => s.head?.map fun r => charWidth r.1
  | .repetition _ least _ body => body.shortest?.map (· * least)
  | .capture _ body => body.shortest?
  | .concat parts => sumLength (shortestEach parts)
  | .alternation branches => minLength (shortestEach branches)

def shortestEach : List Expr → List (Option Nat)
  | [] => []
  | e :: rest => e.shortest? :: shortestEach rest

end

mutual

/-- How many bytes a match has at most; `none` if there is no match or no bound. -/
def longest? : Expr → Option Nat
  | .empty | .look _ => some 0
  | .text cs => some (textWidth cs)
  | .chars s => s.getLast?.map fun r => charWidth r.2
  | .repetition _ _ most body => most.bind fun m => body.longest?.map (· * m)
  | .capture _ body => body.longest?
  | .concat parts => sumLength (longestEach parts)
  | .alternation branches => maxLength (longestEach branches)

def longestEach : List Expr → List (Option Nat)
  | [] => []
  | e :: rest => e.longest? :: longestEach rest

end

def surrogates : RangeSet := [(0xD800, 0xDFFF)]

def ofSet (s : RangeSet) : Expr :=
  match RangeSet.diff s surrogates with
  | [(first, last)] => if first = last then .text [Char.ofNat first] else .chars [(first, last)]
  | t => .chars t

/-- What only an empty text matches can match once at most, however often it is repeated. -/
def repeated (greedy : Bool) (least : Nat) (most : Option Nat) (body : Expr) : Expr :=
  let once := body.longest? == some 0
  let least := if once then min least 1 else least
  let most := if once then some ((most.map (min 1)).getD 1) else most
  if least = 0 && most == some 0 then .empty
  else if least = 1 && most == some 1 then body
  else .repetition greedy least most body

def parts : Expr → List Expr
  | .empty => []
  | .concat es => es
  | e => [e]

def joinTexts : List Expr → List Expr
  | [] => []
  | .text cs :: rest =>
    match joinTexts rest with
    | .text ds :: more => .text (cs ++ ds) :: more
    | more => .text cs :: more
  | e :: rest => e :: joinTexts rest

def ofParts (es : List Expr) : Expr :=
  match joinTexts (es.flatMap parts) with
  | [] => .empty
  | [e] => e
  | fs => .concat fs

def branches : Expr → List Expr
  | .alternation es => es
  | e => [e]

def oneChar? : Expr → Option RangeSet
  | .text [c] => some [(c.toNat, c.toNat)]
  | _ => none

def set? : Expr → Option RangeSet
  | .chars s => some s
  | _ => none

/-- The set that alternatives make if each is one character, or each is a set. -/
def joinedSet? (es : List Expr) : Option RangeSet :=
  ((es.mapM oneChar?).or (es.mapM set?)).map fun sets => RangeSet.ofRanges sets.flatten

def commonFront : List Expr → List Expr → List Expr
  | e :: es, f :: fs => if e.same f then e :: commonFront es fs else []
  | _, _ => []

/-- The leading parts that all alternatives share, if each is a list of parts. -/
def sharedFront : List Expr → List Expr
  | [] => []
  | [.concat es] => es
  | .concat es :: rest => commonFront es (sharedFront rest)
  | _ => []

/-- Alternatives that make no set have what they share put before them. -/
def ofBranchesFrom : Nat → List Expr → Expr
  | 0, es => .alternation es
  | fuel + 1, es =>
    match es.flatMap branches with
    | [] => .chars []
    | [e] => e
    | fs =>
      match joinedSet? fs with
      | some s => ofSet s
      | none =>
        match sharedFront fs with
        | [] => .alternation fs
        | front =>
          let tails := fs.map fun f => ofParts (f.parts.drop front.length)
          ofParts (front ++ [ofBranchesFrom fuel tails])

mutual

def size : Expr → Nat
  | .empty | .text _ | .chars _ | .look _ => 1
  | .repetition _ _ _ body | .capture _ body => body.size + 1
  | .concat es | .alternation es => sizeOfList es + 1

def sizeOfList : List Expr → Nat
  | [] => 0
  | e :: rest => e.size + sizeOfList rest

end

def ofBranches (es : List Expr) : Expr := ofBranchesFrom (sizeOfList es + 1) es

mutual

/-- Whether a match can only be where the given condition holds at its front. -/
def beginsWith (l : Look) : Expr → Bool
  | .empty | .text _ | .chars _ => false
  | .look m => m == l
  | .repetition _ least _ body => least > 0 && body.beginsWith l
  | .capture _ body => body.beginsWith l
  | .concat parts => beginsList l parts
  | .alternation branches => beginsEach l branches

def beginsList (l : Look) : List Expr → Bool
  | [] => false
  | e :: rest => e.beginsWith l || (e.longest? == some 0 && beginsList l rest)

def beginsEach (l : Look) : List Expr → Bool
  | [] => true
  | e :: rest => e.beginsWith l && beginsEach l rest

end

mutual

/-- Whether a match can only be where the given condition holds at its end. -/
def endsWith (l : Look) : Expr → Bool
  | .empty | .text _ | .chars _ => false
  | .look m => m == l
  | .repetition _ least _ body => least > 0 && body.endsWith l
  | .capture _ body => body.endsWith l
  | .concat parts => endsList l parts
  | .alternation branches => endsEach l branches

def endsList (l : Look) : List Expr → Bool
  | [] => false
  | e :: rest =>
    endsList l rest || (rest.all (·.longest? == some 0) && e.endsWith l)

def endsEach (l : Look) : List Expr → Bool
  | [] => true
  | e :: rest => e.endsWith l && endsEach l rest

end

end Expr

end CatalogRspec.Pattern
