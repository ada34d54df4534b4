import CatalogRspec.Pattern.Escape

namespace CatalogRspec.Pattern.Reading

/-- The parts of a class so far, the last one first, and where the first one stands or would stand. -/
structure ClassItems where
  start : Position
  parts : List CharSet

namespace ClassItems

def add (i : ClassItems) (s : CharSet) : ClassItems := { i with parts := s :: i.parts }

def toCharSet (i : ClassItems) : CharSet := .ofParts i.start i.parts.reverse

end ClassItems

/-- A bracket that is still open, or the left side of an operation that waits for its right side. -/
inductive ClassFrame where
  | bracket (outer : ClassItems) (span : Span) (negated : Bool)
  | operand (kind : SetOp) (left : CharSet)

def unclosedClass {α : Type} (frames : List ClassFrame) : Reading α := do
  let spans := frames.filterMap fun
    | .bracket _ span _ => some span
    | .operand _ _ => none
  match spans with
  | span :: _ => fail .classUnclosed span
  | [] => fail .classUnclosed (← spanHere)

def posixNames : List String :=
  ["alnum", "alpha", "ascii", "blank", "cntrl", "digit", "graph", "lower", "print", "punct",
    "space", "upper", "word", "xdigit"]

def posixClass? : Reading (Option CharSet) := do
  let back ← get
  let start ← here
  if !(← eat "[:") then return none
  let negated ← eat "^"
  let name ← takeWhileFrom (· != ':') bump (← get).rest.length
  if (← eat ":]") && posixNames.contains (String.ofList name) then
    return some (.posix (← spanFrom start) (String.ofList name) negated)
  else
    set back
    return none

def leadingHyphens (start : Position) : Nat → Reading (List CharSet)
  | 0 => return []
  | count + 1 => do
    if (← peek?) == some '-' then
      let span ← spanChar
      bumpSpace
      if ← atEnd then fail .classUnclosed ⟨start, start⟩
      let more ← leadingHyphens start count
      return more ++ [.literal ⟨span, '-', false⟩]
    else return []

def openClass : Reading (Span × Bool × ClassItems) := do
  let start ← here
  bumpSpace
  if ← atEnd then fail .classUnclosed (← spanFrom start)
  let negated := (← peek?) == some '^'
  if negated then
    bumpSpace
    if ← atEnd then fail .classUnclosed (← spanFrom start)
  let inside ← here
  let hyphens ← leadingHyphens start (← get).rest.length
  if hyphens.isEmpty && (← peek?) == some ']' then
    let span ← spanChar
    bumpSpace
    if ← atEnd then fail .classUnclosed (← spanFrom start)
    return (← spanFrom start, negated, ⟨inside, [.literal ⟨span, ']', false⟩]⟩)
  return (← spanFrom start, negated, ⟨inside, hyphens⟩)

def classItem : Reading Primitive := do
  match ← peek? with
  | some '\\' => escape
  | some c =>
    let span ← spanChar
    bump
    return .literal ⟨span, c, false⟩
  | none => fail .classUnclosed (← spanHere)

def toCharSet : Primitive → Reading CharSet
  | .literal l => return .literal l
  | .set _ s => return s
  | p => fail .classEscapeInvalid p.span

def toBound : Primitive → Reading Literal
  | .literal l => return l
  | p => fail .classRangeLiteral p.span

/-- A range, or one item. A hyphen before the end or before another hyphen makes no range. -/
def classRange (frames : List ClassFrame) : Reading CharSet := do
  let first ← classItem
  skipSpace
  if ← atEnd then unclosedClass frames
  let next ← secondSpaced?
  if (← peek?) != some '-' || next == some ']' || next == some '-' then toCharSet first
  else
    bumpSpace
    if ← atEnd then unclosedClass frames
    let last ← classItem
    let low ← toBound first
    let high ← toBound last
    if low.char ≤ high.char then return .range low high
    else fail .classRangeInvalid ⟨first.span.start, last.span.stop⟩

def applyOperand (right : CharSet) : List ClassFrame → CharSet × List ClassFrame
  | .operand kind left :: frames => (.op kind left right, frames)
  | frames => (right, frames)

def classOperator? : Reading (Option SetOp) := do
  if ← eat "&&" then return some .inter
  else if ← eat "--" then return some .diff
  else if ← eat "~~" then return some .symmDiff
  else return none

/-- One part of a class. Gives the whole class when its last bracket is closed. -/
def classStep (frames : List ClassFrame) (items : ClassItems) :
    Reading (CharSet ⊕ (List ClassFrame × ClassItems)) := do
  skipSpace
  match ← peek? with
  | none => unclosedClass frames
  | some '[' =>
    match ← (if frames.isEmpty then return none else posixClass?) with
    | some s => return .inr (frames, items.add s)
    | none =>
      let (span, negated, inner) ← openClass
      return .inr (.bracket items span negated :: frames, inner)
  | some ']' =>
    bump
    match applyOperand items.toCharSet frames with
    | (body, .bracket outer span negated :: below) =>
      let whole := CharSet.bracket ⟨span.start, ← here⟩ negated body
      if below.isEmpty then return .inl whole else return .inr (below, outer.add whole)
    | (body, _) => return .inl body
  | some _ =>
    match ← classOperator? with
    | some kind =>
      let (left, below) := applyOperand items.toCharSet frames
      return .inr (.operand kind left :: below, ⟨← here, []⟩)
    | none =>
      let s ← classRange frames
      return .inr (frames, items.add s)

def classFrom (frames : List ClassFrame) (items : ClassItems) : Nat → Reading CharSet
  | 0 => unclosedClass frames
  | count + 1 => do
    match ← classStep frames items with
    | .inl s => return s
    | .inr (frames, items) => classFrom frames items count

/-- Reads a class in brackets; each step reads at least one character. -/
def bracketClass : Reading CharSet := do
  classFrom [] ⟨← here, []⟩ ((← get).rest.length + 1)

end CatalogRspec.Pattern.Reading
