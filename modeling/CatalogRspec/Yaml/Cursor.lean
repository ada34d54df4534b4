import CatalogRspec.Text.Digit
import CatalogRspec.Yaml.Fault

namespace CatalogRspec.Yaml

/-- Line feed, carriage return, next line, line separator, paragraph separator. -/
def isBreak (c : Char) : Bool :=
  c == '\n' || c == '\r' || c.toNat == 0x85 || c.toNat == 0x2028 || c.toNat == 0x2029

def isBlank (c : Char) : Bool := c == ' ' || c == '\t'

def isWord (c : Char) : Bool := c.isAlphanum || c == '_' || c == '-'

/-- Characters that a document may hold. -/
def isAllowed (c : Char) : Bool :=
  let n := c.toNat
  n == 0x09 || n == 0x0A || n == 0x0D || (0x20 ≤ n && n ≤ 0x7E) || n == 0x85 ||
    (0xA0 ≤ n && n ≤ 0xD7FF) || (0xE000 ≤ n && n ≤ 0xFFFD) || 0x10000 ≤ n

abbrev Next := Option Char

def Next.isBreakOrEnd (c : Next) : Bool := c.all isBreak

def Next.endsWord (c : Next) : Bool := c.all fun c => isBlank c || isBreak c

/-- What is left of a document of so many bytes, and where it starts. -/
structure Cursor where
  size : Nat
  rest : List Char
  mark : Mark

namespace Cursor

def ofText (text : String) : Cursor := ⟨text.utf8ByteSize, text.toList, .start⟩

def skip (c : Cursor) : Cursor :=
  match c.rest with
  | [] => c
  | d :: rest => ⟨c.size, rest, ⟨c.mark.index + d.utf8Size, c.mark.line, c.mark.column + 1⟩⟩

def skipBreak (c : Cursor) : Cursor :=
  match c.rest with
  | '\r' :: '\n' :: rest => ⟨c.size, rest, ⟨c.mark.index + 2, c.mark.line + 1, 0⟩⟩
  | d :: rest =>
    if isBreak d then ⟨c.size, rest, ⟨c.mark.index + d.utf8Size, c.mark.line + 1, 0⟩⟩ else c
  | [] => c

/-- The text that a line break stands for: separators stand for themselves. -/
def breakText (c : Cursor) : List Char :=
  match c.rest with
  | d :: _ =>
    if d.toNat == 0x2028 || d.toNat == 0x2029 then [d] else if isBreak d then ['\n'] else []
  | [] => []

def steps (c : Cursor) : Nat := c.size - c.mark.index + 1

/-- Whether a line starts here with `---` or `...` as a word of its own. -/
def atIndicator (c : Cursor) : Bool :=
  c.mark.column == 0 &&
    (['-', '-', '-'].isPrefixOf c.rest || ['.', '.', '.'].isPrefixOf c.rest) &&
    Next.endsWord c.rest[3]?

end Cursor

abbrev Reading := StateT Cursor (Except Fault)

namespace Reading

def fail {α : Type} (problem : Problem) (activity : Activity) (since : Mark) : Reading α := do
  throw ⟨problem, (← get).mark, some (activity, since)⟩

def here : Reading Mark := return (← get).mark

def next : Reading Next := return (← get).rest.head?

def ahead (k : Nat) : Reading Next := return (← get).rest[k]?

def skip : Reading Unit := modify Cursor.skip

def skipBreak : Reading Unit := modify Cursor.skipBreak

def steps : Reading Nat := return (← get).steps

def takeFrom (p : Char → Bool) : Nat → Reading (List Char)
  | 0 => return []
  | count + 1 => do
    match ← next with
    | some c =>
      if p c then
        skip
        return c :: (← takeFrom p count)
      else return []
    | none => return []

def takeWhile (p : Char → Bool) : Reading (List Char) := do takeFrom p (← steps)

def skipBlanks : Reading Unit := do
  let _ ← takeWhile isBlank

def skipComment : Reading Unit := do
  if (← next) == some '#' then
    let _ ← takeWhile (!isBreak ·)

/-- Nothing but blanks and a comment may stand before the end of the line. -/
def endLine (activity : Activity) (since : Mark) : Reading Unit := do
  skipBlanks
  skipComment
  if (← next).isBreakOrEnd then skipBreak else fail .missingLineBreak activity since

end Reading

end CatalogRspec.Yaml
