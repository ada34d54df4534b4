import CatalogRspec.Pattern.Expr
import CatalogRspec.Pattern.Fault

namespace CatalogRspec.Pattern

open Unicode

structure Flags where
  caseInsensitive : Bool := false
  multiLine : Bool := false
  dotMatchesNewLine : Bool := false
  swapGreed : Bool := false
  unicode : Bool := true
  crlf : Bool := false

namespace Flags

def change (f : Flags) : Flag × Bool → Flags
  | (.caseInsensitive, b) => { f with caseInsensitive := b }
  | (.multiLine, b) => { f with multiLine := b }
  | (.dotMatchesNewLine, b) => { f with dotMatchesNewLine := b }
  | (.unicode, b) => { f with unicode := b }
  | (.crlf, b) => { f with crlf := b }
  | (.swapGreed, b) => { f with swapGreed := b }
  | (.ignoreWhitespace, _) => f

def apply (f : Flags) (changes : FlagChanges) : Flags := changes.foldl change f

end Flags

def refuse {α : Type} (kind : FaultKind) (span : Span) : Except Fault α :=
  .error ⟨kind, span, none⟩

def foldIf (f : Flags) (s : RangeSet) : RangeSet :=
  if f.caseInsensitive then
    if f.unicode then closeUnderCase s else closeUnderAsciiCase s
  else s

/-- Without Unicode, what a class leaves out holds bytes that are no text. -/
def negateIf (f : Flags) (span : Span) (negated : Bool) (s : RangeSet) : Except Fault RangeSet :=
  if negated then
    if f.unicode then .ok s.complement else refuse .invalidUtf8 span
  else .ok s

/-- A character of a class; without Unicode only ASCII may stand there. -/
def classChar (f : Flags) (l : Literal) : Except Fault Nat :=
  if f.unicode || l.char.toNat < 0x80 then .ok l.char.toNat
  else if l.isByte then refuse .invalidUtf8 l.span
  else refuse .unicodeNotAllowed l.span

def SetOp.combine : SetOp → RangeSet → RangeSet → RangeSet
  | .inter => RangeSet.inter
  | .diff => RangeSet.diff
  | .symmDiff => RangeSet.symmDiff

def propertySet (f : Flags) (span : Span) (query : PropertyQuery) : Except Fault RangeSet :=
  if !f.unicode then refuse .unicodeNotAllowed span
  else
    match query.resolve with
    | .ok s => .ok s
    | .error .name => refuse .propertyNotFound span
    | .error .value => refuse .propertyValueNotFound span

mutual

def CharSet.meaning (f : Flags) : CharSet → Except Fault RangeSet
  | .literal l => do
    let n ← classChar f l
    return [(n, n)]
  | .range first last => do
    let a ← classChar f first
    let b ← classChar f last
    return [(a, b)]
  | .posix span name negated => negateIf f span negated (foldIf f (posixClass name))
  | .property span query negated => do
    let s ← propertySet f span query
    negateIf f span negated (foldIf f s)
  | .perl span kind negated =>
    negateIf f span negated (if f.unicode then kind.unicode else kind.ascii)
  | .bracket span negated body => do
    let s ← body.meaning f
    negateIf f span negated (foldIf f s)
  | .union _ parts => do
    let sets ← meaningsOfSets f parts
    return RangeSet.ofRanges sets.flatten
  | .op kind left right => do
    let s ← left.meaning f
    let t ← right.meaning f
    return kind.combine (foldIf f s) (foldIf f t)

def meaningsOfSets (f : Flags) : List CharSet → Except Fault (List RangeSet)
  | [] => .ok []
  | s :: rest => do
    let t ← s.meaning f
    let ts ← meaningsOfSets f rest
    return t :: ts

end

def Assertion.meaning (f : Flags) : Assertion → Look
  | .startLine => if f.multiLine then .startLine f.crlf else .startText
  | .endLine => if f.multiLine then .endLine f.crlf else .endText
  | .startText => .startText
  | .endText => .endText
  | .wordBoundary => .boundary f.unicode
  | .notWordBoundary => .notBoundary f.unicode
  | .wordStart => .wordStart f.unicode
  | .wordEnd => .wordEnd f.unicode
  | .wordStartHalf => .wordStartHalf f.unicode
  | .wordEndHalf => .wordEndHalf f.unicode

def literalSet (f : Flags) (l : Literal) : Except Fault RangeSet :=
  if !f.unicode && l.isByte && l.char.toNat ≥ 0x80 then refuse .invalidUtf8 l.span
  else .ok (foldIf f [(l.char.toNat, l.char.toNat)])

def dotSet (f : Flags) (span : Span) : Except Fault RangeSet :=
  if !f.unicode then refuse .invalidUtf8 span
  else if f.dotMatchesNewLine then .ok RangeSet.all
  else if f.crlf then .ok (RangeSet.complement [(10, 10), (13, 13)])
  else .ok (RangeSet.complement [(10, 10)])

mutual

/-- The expression that a node stands for, and the flags for what follows it in its group. -/
def Node.meaning (f : Flags) : Node → Except Fault (Expr × Flags)
  | .empty => .ok (.empty, f)
  | .flags changes => .ok (.empty, f.apply changes)
  | .literal l => do
    let s ← literalSet f l
    return (.ofSet s, f)
  | .dot span => do
    let s ← dotSet f span
    return (.ofSet s, f)
  | .assertion _ kind => .ok (.look (kind.meaning f), f)
  | .set s => do
    let t ← s.meaning f
    return (.ofSet t, f)
  | .repetition _ greedy least most body => do
    let (e, g) ← body.meaning f
    return (.repeated (greedy != f.swapGreed) least most e, g)
  | .group _ number changes body => do
    let (e, _) ← body.meaning (f.apply changes)
    match number with
    | some n => return (.capture n e, f)
    | none => return (e, f)
  | .alternation _ branches => do
    let (es, g) ← meaningsOfNodes f branches
    return (.ofBranches es, g)
  | .concat _ parts => do
    let (es, g) ← meaningsOfNodes f parts
    return (.ofParts es, g)

def meaningsOfNodes (f : Flags) : List Node → Except Fault (List Expr × Flags)
  | [] => .ok ([], f)
  | n :: rest => do
    let (e, g) ← n.meaning f
    let (es, h) ← meaningsOfNodes g rest
    return (e :: es, h)

end

end CatalogRspec.Pattern
