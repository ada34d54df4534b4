import CatalogRspec.Yaml.Cursor

namespace CatalogRspec.Yaml

inductive Style where
  | plain
  | singleQuoted
  | doubleQuoted
  | literal
  | folded
deriving Repr, DecidableEq

/--
Blanks and line breaks between two pieces of a scalar. Blanks count only on a line of their own
pieces; once a line was broken, only the breaks do.
-/
structure Gap where
  blanks : List Char := []
  first : List Char := []
  more : List Char := []
  broken : Bool := false

/-- What a gap leaves: a single line feed becomes a space, and before others it is dropped. -/
def Gap.text (g : Gap) : List Char :=
  if g.broken then
    if g.first = ['\n'] then (if g.more.isEmpty then [' '] else g.more) else g.first ++ g.more
  else g.blanks

namespace Reading

/-- Reads on in a gap. In a plain scalar a tab may not stand left of column `indent`. -/
def gapFrom (indent : Option (Int × Mark)) (g : Gap) : Nat → Reading Gap
  | 0 => return g
  | count + 1 => do
    let c ← get
    match c.rest with
    | [] => return g
    | d :: _ =>
      if isBlank d then
        if let some (column, since) := indent then
          if g.broken && d == '\t' && (c.mark.column : Int) < column then
            fail .tabAgainstIndentation .plainScalar since
        skip
        gapFrom indent (if g.broken then g else { g with blanks := g.blanks ++ [d] }) count
      else if isBreak d then
        let text := c.breakText
        skipBreak
        let g' :=
          if g.broken then { g with more := g.more ++ text }
          else { g with blanks := [], first := text, broken := true }
        gapFrom indent g' count
      else return g

def readGap (indent : Option (Int × Mark)) (g : Gap) : Reading Gap := do
  gapFrom indent g (← steps)

def isFlowIndicator (c : Char) : Bool :=
  c == ',' || c == '[' || c == ']' || c == '{' || c == '}'

def endsPlain (inFlow : Bool) (since : Mark) : Reading Bool := do
  let c ← next
  let d ← ahead 1
  if inFlow && c == some ':' && d.any (fun d => isFlowIndicator d || d == '?') then
    fail .unexpectedColon .plainScalar since
  return c.endsWord || (c == some ':' && Next.endsWord d) || (inFlow && c.any isFlowIndicator)

def plainPiece (inFlow : Bool) (since : Mark) : Nat → Reading (List Char)
  | 0 => return []
  | count + 1 => do
    if ← endsPlain inFlow since then return []
    match ← next with
    | some c =>
      skip
      return c :: (← plainPiece inFlow since count)
    | none => return []

/-- The text of a plain scalar, its end, and whether the gap behind it breaks the line. -/
structure Plain where
  text : List Char
  stop : Mark
  broken : Bool

def plainFrom (inFlow : Bool) (indent : Int) (since : Mark) (p : Plain) (gap : Gap) :
    Nat → Reading Plain
  | 0 => return p
  | count + 1 => do
    let c ← get
    if c.atIndicator || c.rest.head? == some '#' then return { p with broken := gap.broken }
    let piece ← plainPiece inFlow since c.steps
    let stop ← here
    let p := if piece.isEmpty then p else { p with text := p.text ++ gap.text ++ piece, stop := stop }
    let gap := if piece.isEmpty then gap else {}
    match ← next with
    | some d =>
      if isBlank d || isBreak d then
        let gap ← readGap (some (indent, since)) gap
        if !inFlow && ((← here).column : Int) < indent then return { p with broken := gap.broken }
        plainFrom inFlow indent since p gap count
      else return { p with broken := gap.broken }
    | none => return { p with broken := gap.broken }

/-- A plain scalar, which outside flow collections has to stay right of the indentation. -/
def plain (inFlow : Bool) (indent : Int) : Reading Plain := do
  let start ← here
  plainFrom inFlow (indent + 1) start ⟨[], start, false⟩ {} (← steps)

def letterEscape? (c : Char) : Option Char :=
  match c with
  | '0' => some (Char.ofNat 0)
  | 'a' => some '\x07'
  | 'b' => some '\x08'
  | 't' | '\t' => some '\t'
  | 'n' => some '\n'
  | 'v' => some '\x0b'
  | 'f' => some '\x0c'
  | 'r' => some '\r'
  | 'e' => some '\x1b'
  | ' ' | '"' | '/' | '\\' => some c
  | 'N' => some (Char.ofNat 0x85)
  | '_' => some (Char.ofNat 0xA0)
  | 'L' => some (Char.ofNat 0x2028)
  | 'P' => some (Char.ofNat 0x2029)
  | _ => none

def codeLength? : Char → Option Nat
  | 'x' => some 2
  | 'u' => some 4
  | 'U' => some 8
  | _ => none

def codePoint (count : Nat) (since : Mark) : Reading Char := do
  skip
  skip
  let digits := (← get).rest.take count
  match Text.readDigits? Text.hexValue? 16 digits with
  | some n =>
    if digits.length < count then fail .missingHex .quotedEscape since
    if n.isValidChar then
      for _ in digits do skip
      return Char.ofNat n
    else fail .invalidCodePoint .quotedEscape since
  | none => fail .missingHex .quotedEscape since

def quotedEscape (since : Mark) : Reading Char := do
  match ← ahead 1 with
  | none => fail .unknownEscape .quotedEscape since
  | some c =>
    match letterEscape? c, codeLength? c with
    | some d, _ =>
      skip
      skip
      return d
    | none, some count => codePoint count since
    | none, none => fail .unknownEscape .quotedEscape since

/-- A piece of a quoted scalar without blanks, and whether an escaped line break ends it. -/
def quotedPiece (single : Bool) (since : Mark) : Nat → Reading (List Char × Bool)
  | 0 => return ([], false)
  | count + 1 => do
    let c ← next
    let d ← ahead 1
    if c.endsWord then return ([], false)
    else if single && c == some '\'' && d == some '\'' then
      skip
      skip
      let (more, broken) ← quotedPiece single since count
      return ('\'' :: more, broken)
    else if c == some (if single then '\'' else '"') then return ([], false)
    else if !single && c == some '\\' then
      if d.any isBreak then
        skip
        skipBreak
        return ([], true)
      let e ← quotedEscape since
      let (more, broken) ← quotedPiece single since count
      return (e :: more, broken)
    else
      skip
      let (more, broken) ← quotedPiece single since count
      return (c.toList ++ more, broken)

def quotedFrom (single : Bool) (since : Mark) : Nat → Reading (List Char)
  | 0 => return []
  | count + 1 => do
    let c ← get
    if c.atIndicator then fail .documentIndicator .quotedScalar since
    if c.rest.isEmpty then fail .unexpectedEnd .quotedScalar since
    let (piece, broken) ← quotedPiece single since c.steps
    if (← next) == some (if single then '\'' else '"') then return piece
    let gap ← readGap none { broken := broken }
    return piece ++ gap.text ++ (← quotedFrom single since count)

def quoted (single : Bool) : Reading (List Char) := do
  let start ← here
  skip
  let text ← quotedFrom single start (2 * (← steps))
  skip
  return text

/-- What happens to the line breaks at the end of a block. -/
inductive Chomping where
  | strip
  | clip
  | keep
deriving Repr, DecidableEq

/-- The indicators in the first line of a block: chomping and extra indentation, in either order. -/
structure BlockHeader where
  chomping : Chomping := .clip
  increment : Nat := 0

def chomping? : Next → Option Chomping
  | some '+' => some .keep
  | some '-' => some .strip
  | _ => none

def increment (since : Mark) : Reading Nat := do
  match (← next).bind Text.decimalValue? with
  | some 0 => fail .zeroIndentation .blockScalar since
  | some n =>
    skip
    return n
  | none => return 0

def blockHeader (since : Mark) : Reading BlockHeader := do
  match chomping? (← next) with
  | some chomping =>
    skip
    return ⟨chomping, ← increment since⟩
  | none =>
    let n ← increment since
    let c ← next
    match (if n = 0 then none else chomping? c) with
    | some chomping =>
      skip
      return ⟨chomping, n⟩
    | none => return ⟨.clip, n⟩

/-- Line breaks before a line of a block, and where the last one ended. -/
structure Breaks where
  text : List Char
  stop : Mark
  widest : Nat

/-- Passes over indentation and empty lines; without `indent`, indentation may have any width. -/
def breaksFrom (indent : Option Nat) (since : Mark) (b : Breaks) : Nat → Reading Breaks
  | 0 => return b
  | count + 1 => do
    let before := (← get).mark.column
    let room := indent.map (· - before)
    let _ ← takeFrom (· == ' ') (room.getD (← steps))
    let c ← get
    let b := { b with widest := max b.widest c.mark.column }
    if indent.all (c.mark.column < ·) && c.rest.head? == some '\t' then
      fail .tabInIndentation .blockScalar since
    if c.rest.head?.any isBreak then
      skipBreak
      breaksFrom indent since { b with text := b.text ++ c.breakText, stop := ← here } count
    else return b

def readBreaks (indent : Option Nat) (since : Mark) : Reading Breaks := do
  breaksFrom indent since ⟨[], ← here, 0⟩ (← steps)

/-- What stands between two lines of a block: the break that ended the first, those after it, and
whether the first started with a blank. -/
structure Joint where
  first : List Char
  more : Breaks
  afterBlank : Bool

/-- Whether the break before the next line is folded: neither line may start with a blank. -/
def Joint.folds (j : Joint) (keepsLines startsBlank : Bool) : Bool :=
  !keepsLines && j.first == ['\n'] && !j.afterBlank && !startsBlank

def Joint.text (j : Joint) (keepsLines startsBlank : Bool) : List Char :=
  if j.folds keepsLines startsBlank then (if j.more.text.isEmpty then [' '] else j.more.text)
  else j.first ++ j.more.text

def blockFrom (keepsLines : Bool) (indent : Nat) (since : Mark) (j : Joint) :
    Nat → Reading (List Char × Joint)
  | 0 => return ([], j)
  | count + 1 => do
    let c ← get
    if c.mark.column ≠ indent || c.rest.isEmpty then return ([], j)
    let startsBlank := c.rest.head?.any isBlank
    let line ← takeWhile (!isBreak ·)
    let first := (← get).breakText
    skipBreak
    let more ← readBreaks (some indent) since
    let (text, last) ← blockFrom keepsLines indent since ⟨first, more, startsBlank⟩ count
    return (j.text keepsLines startsBlank ++ line ++ text, last)

/-- A block scalar inside a collection that is indented by `outer`, and where it ends. -/
def block (keepsLines : Bool) (outer : Int) : Reading (List Char × Mark) := do
  let start ← here
  skip
  let header ← blockHeader start
  endLine .blockScalar start
  let given : Option Nat :=
    if header.increment = 0 then none else some ((max outer 0).toNat + header.increment)
  let breaks ← readBreaks given start
  let indent := given.getD (max breaks.widest (max (outer + 1).toNat 1))
  let (text, last) ← blockFrom keepsLines indent start ⟨[], breaks, false⟩ (← steps)
  let tail :=
    match header.chomping with
    | .strip => []
    | .clip => last.first
    | .keep => last.first ++ last.more.text
  return (text ++ tail, last.more.stop)

end Reading

end CatalogRspec.Yaml
