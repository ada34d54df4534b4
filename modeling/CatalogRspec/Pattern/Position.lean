namespace CatalogRspec.Pattern

/-- A place in a pattern; lines and columns count from one. -/
structure Position where
  line : Nat
  column : Nat
deriving Repr, DecidableEq

namespace Position

def start : Position := ⟨1, 1⟩

def after (p : Position) (c : Char) : Position :=
  if c = '\n' then ⟨p.line + 1, 1⟩ else ⟨p.line, p.column + 1⟩

def le (p q : Position) : Bool := p.line < q.line || (p.line == q.line && p.column ≤ q.column)

end Position

/-- The characters of a pattern from `start` up to `stop`. -/
structure Span where
  start : Position
  stop : Position
deriving Repr, DecidableEq

namespace Span

def isOneLine (s : Span) : Bool := s.start.line == s.stop.line

def le (s t : Span) : Bool :=
  if s.start = t.start then s.stop.le t.stop else s.start.le t.start

end Span

end CatalogRspec.Pattern
