import CatalogRspec.Pattern.Position

namespace CatalogRspec.Pattern

inductive Flag where
  | caseInsensitive
  | multiLine
  | dotMatchesNewLine
  | swapGreed
  | unicode
  | crlf
  | ignoreWhitespace
deriving Repr, DecidableEq

abbrev FlagChanges := List (Flag × Bool)

/-- A character; `isByte` tells that it is written as `\x` and two digits. -/
structure Literal where
  span : Span
  char : Char
  isByte : Bool

/-- Classes written as a backslash and a letter. -/
inductive PerlClass where
  | digit
  | space
  | word
deriving Repr, DecidableEq

/-- How a property is named: by one letter, by name, or by name and value. -/
inductive PropertyQuery where
  | named (name : String)
  | valued (name value : String)

inductive SetOp where
  | inter
  | diff
  | symmDiff
deriving Repr, DecidableEq

inductive CharSet where
  | literal (l : Literal)
  | range (first last : Literal)
  | posix (span : Span) (name : String) (negated : Bool)
  | property (span : Span) (query : PropertyQuery) (negated : Bool)
  | perl (span : Span) (kind : PerlClass) (negated : Bool)
  | bracket (span : Span) (negated : Bool) (body : CharSet)
  | union (span : Span) (parts : List CharSet)
  | op (kind : SetOp) (left right : CharSet)

def CharSet.span : CharSet → Span
  | .literal l => l.span
  | .range first last => ⟨first.span.start, last.span.stop⟩
  | .posix span _ _ | .property span _ _ | .perl span _ _ | .bracket span _ _ | .union span _ => span
  | .op _ left right => ⟨left.span.start, right.span.stop⟩

/-- The parts of a class from the first to the last; `start` is where they would stand. -/
def CharSet.ofParts (start : Position) : List CharSet → CharSet
  | [] => .union ⟨start, start⟩ []
  | [s] => s
  | s :: rest => .union ⟨s.span.start, ((rest.getLast?.map CharSet.span).getD s.span).stop⟩ (s :: rest)

/-- Conditions on the place between two characters. -/
inductive Assertion where
  | startLine
  | endLine
  | startText
  | endText
  | wordBoundary
  | notWordBoundary
  | wordStart
  | wordEnd
  | wordStartHalf
  | wordEndHalf
deriving Repr, DecidableEq

inductive Node where
  | empty
  | flags (changes : FlagChanges)
  | literal (l : Literal)
  | dot (span : Span)
  | assertion (span : Span) (kind : Assertion)
  | set (s : CharSet)
  | repetition (span : Span) (greedy : Bool) (least : Nat) (most : Option Nat) (body : Node)
  /-- A group, with its number if what it matches is kept. -/
  | group (span : Span) (number : Option Nat) (changes : FlagChanges) (body : Node)
  | alternation (span : Span) (branches : List Node)
  | concat (span : Span) (parts : List Node)

def Node.start? : Node → Option Position
  | .empty | .flags _ => none
  | .literal l => some l.span.start
  | .set s => some s.span.start
  | .dot span | .assertion span _ | .repetition span _ _ _ _ | .group span _ _ _
  | .alternation span _ | .concat span _ => some span.start

def Node.ofParts (span : Span) : List Node → Node
  | [] => .empty
  | [n] => n
  | ns => .concat span ns

mutual

def CharSet.tooDeep? : CharSet → Nat → Option Span
  | .bracket span _ _, 0 => some span
  | .bracket _ _ body, room + 1 => body.tooDeep? room
  | .union _ [], _ => none
  | .union span _, 0 => some span
  | .union _ parts, room + 1 => tooDeepSet? parts room
  | .op _ left right, 0 => some ⟨left.span.start, right.span.stop⟩
  | .op _ left right, room + 1 => (left.tooDeep? room).or (right.tooDeep? room)
  | _, _ => none

def tooDeepSet? : List CharSet → Nat → Option Span
  | [], _ => none
  | s :: rest, room => (s.tooDeep? room).or (tooDeepSet? rest room)

end

mutual

def Node.tooDeep? : Node → Nat → Option Span
  | .set s, room => s.tooDeep? room
  | .repetition span _ _ _ _, 0 | .group span _ _ _, 0 | .alternation span _, 0 | .concat span _, 0 =>
    some span
  | .repetition _ _ _ _ body, room + 1 | .group _ _ _ body, room + 1 => body.tooDeep? room
  | .alternation _ parts, room + 1 | .concat _ parts, room + 1 => tooDeepNode? parts room
  | _, _ => none

def tooDeepNode? : List Node → Nat → Option Span
  | [], _ => none
  | n :: rest, room => (n.tooDeep? room).or (tooDeepNode? rest room)

end

end CatalogRspec.Pattern
