import CatalogRspec.Pattern.Fault
import CatalogRspec.Text.Blank

namespace CatalogRspec.Pattern

/--
What is left of a pattern, and where it starts. While `verbose` holds, blanks and comments stand for
nothing. `groups` counts the numbered groups so far, and `names` holds the names among them.
-/
structure Cursor where
  rest : List Char
  pos : Position
  verbose : Bool
  groups : Nat
  names : List (String × Span)

abbrev Reading := StateT Cursor (Except Fault)

namespace Reading

def fail {α : Type} (kind : FaultKind) (span : Span) : Reading α := throw ⟨kind, span, none⟩

def here : Reading Position := return (← get).pos

def atEnd : Reading Bool := return (← get).rest.isEmpty

def peek? : Reading (Option Char) := return (← get).rest.head?

def second? : Reading (Option Char) := return (← get).rest[1]?

def spanFrom (start : Position) : Reading Span := return ⟨start, ← here⟩

def spanHere : Reading Span := do spanFrom (← here)

def spanChar : Reading Span := do
  let c ← get
  match c.rest with
  | [] => return ⟨c.pos, c.pos⟩
  | d :: _ => return ⟨c.pos, c.pos.after d⟩

def bump : Reading Unit :=
  modify fun c =>
    match c.rest with
    | [] => c
    | d :: rest => { c with rest := rest, pos := c.pos.after d }

/-- Passes over blanks and over comments, which run from `#` to the end of the line. -/
def passSpace (inComment : Bool) (pos : Position) : List Char → List Char × Position
  | [] => ([], pos)
  | c :: s =>
    if inComment then passSpace (c != '\n') (pos.after c) s
    else if Text.isBlank c then passSpace false (pos.after c) s
    else if c = '#' then passSpace true (pos.after c) s
    else (c :: s, pos)

def skipSpace : Reading Unit :=
  modify fun c =>
    if c.verbose then
      let (rest, pos) := passSpace false c.pos c.rest
      { c with rest := rest, pos := pos }
    else c

def bumpSpace : Reading Unit := do
  bump
  skipSpace

/-- The first character that is neither blank nor the first number sign. -/
def firstMark? (passedSign : Bool) : List Char → Option Char
  | [] => none
  | c :: s =>
    if Text.isBlank c then firstMark? passedSign s
    else if !passedSign && c = '#' then firstMark? true s
    else some c

/--
The character behind the next one. A look that passes over blanks also passes over one number sign, but
not over the comment that it starts; if nothing else is left, it is the very next character.
-/
def secondSpaced? : Reading (Option Char) := do
  let c ← get
  if c.verbose then return (firstMark? false (c.rest.drop 1)).or c.rest[1]? else second?

/-- Reads the given characters if they come next. -/
def eat (text : String) : Reading Bool := do
  if text.toList.isPrefixOf (← get).rest then
    for _ in text.toList do bump
    return true
  else return false

/-- Takes up to `count` characters that satisfy `p`; `pass` moves behind each. -/
def takeWhileFrom (p : Char → Bool) (pass : Reading Unit) : Nat → Reading (List Char)
  | 0 => return []
  | count + 1 => do
    match ← peek? with
    | some c =>
      if p c then
        pass
        return c :: (← takeWhileFrom p pass count)
      else return []
    | none => return []

/-- Takes the characters that satisfy `p`, without the space between them. -/
def takeSpaced (p : Char → Bool) : Reading (List Char) := do
  takeWhileFrom p bumpSpace (← get).rest.length

end Reading

end CatalogRspec.Pattern
