import CatalogRspec.Pattern.Bracket
import CatalogRspec.Unicode.Revision

namespace CatalogRspec.Pattern.Reading

/-- The parts of an alternative so far, the last one first, and where the first one stands. -/
structure Parts where
  start : Position
  nodes : List Node

namespace Parts

def add (p : Parts) (n : Node) : Parts := { p with nodes := n :: p.nodes }

def toNode (p : Parts) (stop : Position) : Node := .ofParts ⟨p.start, stop⟩ p.nodes.reverse

end Parts

/-- A group that is still open, or the finished alternatives before the present one. -/
inductive Frame where
  | group (outer : Parts) (number : Option Nat) (changes : FlagChanges) (opening : Span)
    (verbose : Bool)
  | branches (start : Position) (done : List Node)

def isAlphabetic (c : Char) : Bool := Unicode.alphabeticSet.contains c.toNat

def isNumeric (c : Char) : Bool := Unicode.numericSet.contains c.toNat

def isNameChar (first : Bool) (c : Char) : Bool :=
  c == '_' || isAlphabetic c || (!first && (c == '.' || c == '[' || c == ']' || isNumeric c))

def nameChars (first : Bool) : Nat → Reading (List Char)
  | 0 => return []
  | count + 1 => do
    match ← peek? with
    | none | some '>' => return []
    | some c =>
      if isNameChar first c then
        bump
        return c :: (← nameChars false count)
      else fail .groupNameInvalid (← spanChar)

def groupName : Reading Unit := do
  if ← atEnd then fail .groupNameUnexpectedEnd (← spanHere)
  let start ← here
  let chars ← nameChars true (← get).rest.length
  if ← atEnd then fail .groupNameUnexpectedEnd (← spanHere)
  let span ← spanFrom start
  bump
  if chars.isEmpty then fail .groupNameEmpty ⟨start, start⟩
  let name := String.ofList chars
  match (← get).names.lookup name with
  | some earlier => throw ⟨.groupNameDuplicate, span, some earlier⟩
  | none => modify fun c => { c with names := (name, span) :: c.names }

def flag? : Char → Option Flag
  | 'i' => some .caseInsensitive
  | 'm' => some .multiLine
  | 's' => some .dotMatchesNewLine
  | 'U' => some .swapGreed
  | 'u' => some .unicode
  | 'R' => some .crlf
  | 'x' => some .ignoreWhitespace
  | _ => none

/--
Flags up to a colon or a closing parenthesis. `seen` holds the flags so far with their places, and
`minus` the place of the hyphen behind which flags are taken away.
-/
def flagsFrom (seen : List (Flag × Span)) (minus : Option Span) (dangling : Bool) :
    Nat → Reading FlagChanges
  | 0 => return []
  | count + 1 => do
    match ← peek? with
    | none => fail .flagUnexpectedEnd (← spanHere)
    | some c =>
      if c = ':' || c = ')' then
        match dangling, minus with
        | true, some span => fail .flagDanglingNegation span
        | _, _ => return []
      else if c = '-' then
        let span ← spanChar
        if let some earlier := minus then throw ⟨.flagRepeatedNegation, span, some earlier⟩
        bump
        if ← atEnd then fail .flagUnexpectedEnd (← spanHere)
        flagsFrom seen (some span) true count
      else
        let span ← spanChar
        match flag? c with
        | none => fail .flagUnrecognized span
        | some flag =>
          if let some earlier := seen.lookup flag then throw ⟨.flagDuplicate, span, some earlier⟩
          bump
          if ← atEnd then fail .flagUnexpectedEnd (← spanHere)
          let more ← flagsFrom ((flag, span) :: seen) minus false count
          return (flag, minus.isNone) :: more

def readFlags : Reading FlagChanges := do
  flagsFrom [] none false ((← get).rest.length + 1)

/-- What a parenthesis opens: a group, or flags for the rest of the present one. -/
inductive Opening where
  | flags (changes : FlagChanges)
  | group (number : Option Nat) (changes : FlagChanges) (span : Span)

def isLookAround : Reading Bool := do
  if ← eat "?=" then return true
  else if ← eat "?!" then return true
  else if ← eat "?<=" then return true
  else eat "?<!"

/-- The number of the group that opens here; groups count from one. -/
def nextNumber : Reading Nat := do
  modify fun c => { c with groups := c.groups + 1 }
  return (← get).groups

def opening : Reading Opening := do
  let paren ← spanChar
  bumpSpace
  if ← isLookAround then fail .lookAround (← spanFrom paren.start)
  let inner ← spanHere
  if ← (do if ← eat "?P<" then return true else eat "?<") then
    let number ← nextNumber
    groupName
    return .group (some number) [] paren
  else if ← eat "?" then
    if ← atEnd then fail .groupUnclosed paren
    let hasFlags := (← peek?) != some ')'
    let changes ← readFlags
    let closes := (← peek?) == some ')'
    bump
    if closes then
      if hasFlags then return .flags changes else fail .repetitionMissing inner
    else return .group none changes paren
  else return .group (some (← nextNumber)) [] paren

def setVerbose (verbose : Bool) : Reading Unit := modify fun c => { c with verbose := verbose }

def openGroup (frames : List Frame) (parts : Parts) : Reading (List Frame × Parts) := do
  match ← opening with
  | .flags changes =>
    if let some v := changes.lookup .ignoreWhitespace then setVerbose v
    return (frames, parts.add (.flags changes))
  | .group number changes span =>
    let verbose := (← get).verbose
    setVerbose ((changes.lookup .ignoreWhitespace).getD verbose)
    return (.group parts number changes span verbose :: frames, ⟨← here, []⟩)

/-- Joins the present alternative, which ends at `stop`, to the ones before it. -/
def endBranches (parts : Parts) (stop : Position) : List Frame → Node × List Frame
  | .branches start done :: frames =>
    (.alternation ⟨start, stop⟩ (parts.toNode stop :: done).reverse, frames)
  | frames => (parts.toNode stop, frames)

def closeGroup (frames : List Frame) (parts : Parts) : Reading (List Frame × Parts) := do
  match endBranches parts (← here) frames with
  | (body, .group outer number changes span verbose :: below) =>
    setVerbose verbose
    bump
    return (below, outer.add (.group ⟨span.start, ← here⟩ number changes body))
  | _ => fail .groupUnopened (← spanChar)

def nextBranch (frames : List Frame) (parts : Parts) : Reading (List Frame × Parts) := do
  let branch := parts.toNode (← here)
  bump
  let next : Parts := ⟨← here, []⟩
  match frames with
  | .branches start done :: below => return (.branches start (branch :: done) :: below, next)
  | _ => return (.branches parts.start [branch] :: frames, next)

/-- What a repetition applies to: the last part, which is neither missing nor a change of flags. -/
def repeatable (parts : Parts) : Reading (Node × Position × Parts) := do
  match parts.nodes with
  | [] => fail .repetitionMissing (← spanHere)
  | n :: rest =>
    match n.start? with
    | some start => return (n, start, { parts with nodes := rest })
    | none => fail .repetitionMissing (← spanHere)

/-- A question mark behind a repetition makes it lazy. -/
def isGreedy : Reading Bool := do
  if (← peek?) == some '?' then
    bump
    return false
  else return true

def repetition (least : Nat) (most : Option Nat) (parts : Parts) : Reading Parts := do
  let (body, start, rest) ← repeatable parts
  bump
  let greedy ← isGreedy
  return rest.add (.repetition (← spanFrom start) greedy least most body)

/-- A decimal number with blanks around it, below `2 ^ 32`. -/
def decimal : Reading (Except Fault Nat) := do
  let _ ← takeWhileFrom Text.isBlank bump (← get).rest.length
  let start ← here
  let digits ← takeSpaced Char.isDigit
  let span ← spanFrom start
  let _ ← takeSpaced Text.isBlank
  match digits, Text.readDigits? Text.decimalValue? 10 digits with
  | [], _ | _, none => return .error ⟨.countEmpty, span, none⟩
  | _, some n =>
    if n < 0x100000000 then return .ok n else return .error ⟨.decimalInvalid, span, none⟩

/-- The bounds between the braces of a repetition, whose opening brace has been read. -/
def bounds (start : Position) : Reading (Nat × Option Nat) := do
  let least ← decimal
  match ← peek? with
  | none => fail .countUnclosed (← spanFrom start)
  | some ',' =>
    bumpSpace
    match ← peek? with
    | none => fail .countUnclosed (← spanFrom start)
    | some '}' => return (← least, none)
    | some _ =>
      let least ← least
      let most ← decimal
      return (least, some (← most))
  | some _ =>
    let n ← least
    return (n, some n)

def countedRepetition (parts : Parts) : Reading Parts := do
  let brace ← here
  let (body, start, rest) ← repeatable parts
  bumpSpace
  if ← atEnd then fail .countUnclosed (← spanFrom brace)
  let (least, most) ← bounds brace
  if (← peek?) != some '}' then fail .countUnclosed (← spanFrom brace)
  bumpSpace
  let greedy ← isGreedy
  if most.any (· < least) then fail .countInvalid (← spanFrom brace)
  return rest.add (.repetition (← spanFrom start) greedy least most body)

def primitive (c : Char) : Reading Primitive := do
  if c = '\\' then escape
  else
    let span ← spanChar
    bump
    match c with
    | '.' => return .dot span
    | '^' => return .assertion span .startLine
    | '$' => return .assertion span .endLine
    | c => return .literal ⟨span, c, false⟩

def nodeStep (frames : List Frame) (parts : Parts) (c : Char) : Reading (List Frame × Parts) := do
  match c with
  | '(' => openGroup frames parts
  | ')' => closeGroup frames parts
  | '|' => nextBranch frames parts
  | '[' => return (frames, parts.add (.set (← bracketClass)))
  | '?' => return (frames, ← repetition 0 (some 1) parts)
  | '*' => return (frames, ← repetition 0 none parts)
  | '+' => return (frames, ← repetition 1 none parts)
  | '{' => return (frames, ← countedRepetition parts)
  | c => return (frames, parts.add (← primitive c).toNode)

def endPattern (frames : List Frame) (parts : Parts) : Reading Node := do
  match endBranches parts (← here) frames with
  | (_, .group _ _ _ span _ :: _) => fail .groupUnclosed span
  | (body, _) => return body

def nodesFrom (frames : List Frame) (parts : Parts) : Nat → Reading Node
  | 0 => endPattern frames parts
  | count + 1 => do
    skipSpace
    match ← peek? with
    | none => endPattern frames parts
    | some c =>
      let (frames, parts) ← nodeStep frames parts c
      nodesFrom frames parts count

def node : Reading Node := do
  let n ← nodesFrom [] ⟨← here, []⟩ ((← get).rest.length + 1)
  match n.tooDeep? maxNesting with
  | some span => fail .nestedTooDeep span
  | none => return n

end CatalogRspec.Pattern.Reading

namespace CatalogRspec.Pattern

def Node.parse (source : String) : Except Fault Node :=
  (Reading.node.run ⟨source.toList, .start, false, 0, []⟩).map (·.1)

end CatalogRspec.Pattern
