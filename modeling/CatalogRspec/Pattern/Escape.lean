import CatalogRspec.Pattern.Cursor
import CatalogRspec.Pattern.Node
import CatalogRspec.Text.Digit

namespace CatalogRspec.Pattern

/-- The smallest part of a pattern, with its place. -/
inductive Primitive where
  | literal (l : Literal)
  | assertion (span : Span) (kind : Assertion)
  | dot (span : Span)
  | set (span : Span) (s : CharSet)

def Primitive.span : Primitive → Span
  | .literal l => l.span
  | .assertion s _ | .dot s | .set s _ => s

def Primitive.toNode : Primitive → Node
  | .literal l => .literal l
  | .assertion span kind => .assertion span kind
  | .dot s => .dot s
  | .set _ s => .set s

namespace Reading

def isMeta (c : Char) : Bool := "\\.+*?()|[]\x7b\x7d^$#&-~".toList.contains c

/-- Characters that mean themselves behind a backslash. -/
def isEscapable (c : Char) : Bool :=
  isMeta c || (c.toNat < 0x80 && !c.isAlphanum && c != '<' && c != '>')

def isHex (c : Char) : Bool := (Text.hexValue? c).isSome

def hexChar? (digits : List Char) : Option Char := do
  let n ← Text.readDigits? Text.hexValue? 16 digits
  if n.isValidChar then some (Char.ofNat n) else none

/-- Takes exactly `count` digits; the first is not behind a space. -/
def hexDigits (first : Bool) : Nat → Reading (List Char)
  | 0 => return []
  | count + 1 => do
    if !first then
      bumpSpace
      if ← atEnd then fail .escapeUnexpectedEnd (← spanHere)
    match ← peek? with
    | some c =>
      if isHex c then return c :: (← hexDigits false count)
      else fail .escapeHexInvalidDigit (← spanChar)
    | none => fail .escapeUnexpectedEnd (← spanHere)

def fixedHex (start : Position) (count : Nat) : Reading Literal := do
  let first ← here
  let digits ← hexDigits true count
  bumpSpace
  match hexChar? digits with
  | some c => return ⟨← spanFrom start, c, count == 2⟩
  | none => fail .escapeHexInvalid (← spanFrom first)

def bracedHex (start : Position) : Reading Literal := do
  let brace ← here
  bumpSpace
  let first : Position := ⟨brace.line, brace.column + 1⟩
  let digits ← takeSpaced isHex
  match ← peek? with
  | none => fail .escapeUnexpectedEnd (← spanFrom brace)
  | some '}' =>
    let last ← here
    bumpSpace
    if digits.isEmpty then fail .escapeHexEmpty (← spanFrom brace)
    match hexChar? digits with
    | some c => return ⟨← spanFrom start, c, false⟩
    | none => fail .escapeHexInvalid ⟨first, last⟩
  | some _ => fail .escapeHexInvalidDigit (← spanChar)

/-- A code point in hexadecimal, behind the letter that says how many digits it has. -/
def hex (start : Position) (count : Nat) : Reading Primitive := do
  bumpSpace
  match ← peek? with
  | none => fail .escapeUnexpectedEnd (← spanHere)
  | some '{' => return .literal (← bracedHex start)
  | some _ => return .literal (← fixedHex start count)

/-- Splits a property's text at its operator, and tells whether that negates. -/
def readQuery (text : String) : PropertyQuery × Bool :=
  match Text.split "!=" text with
  | name :: value :: more => (.valued name (String.intercalate "!=" (value :: more)), true)
  | _ =>
    match Text.split ":" text with
    | name :: value :: more => (.valued name (String.intercalate ":" (value :: more)), false)
    | _ =>
      match Text.split "=" text with
      | name :: value :: more => (.valued name (String.intercalate "=" (value :: more)), false)
      | _ => (.named text, false)

def property (start : Position) (negated : Bool) : Reading Primitive := do
  bumpSpace
  match ← peek? with
  | none => fail .escapeUnexpectedEnd (← spanHere)
  | some '{' =>
    bumpSpace
    let text ← takeSpaced (· != '}')
    if ← atEnd then fail .escapeUnexpectedEnd (← spanHere)
    bump
    let (query, flips) := readQuery (String.ofList text)
    let span ← spanFrom start
    return .set span (.property span query (negated != flips))
  | some '\\' => fail .unicodeClassInvalid (← spanChar)
  | some c =>
    bumpSpace
    let span ← spanFrom start
    return .set span (.property span (.named (String.singleton c)) negated)

def perlClass (start : Position) (kind : PerlClass) (negated : Bool) : Reading Primitive := do
  bump
  let span ← spanFrom start
  return .set span (.perl span kind negated)

def boundaryKind? : String → Option Assertion
  | "start" => some .wordStart
  | "end" => some .wordEnd
  | "start-half" => some .wordStartHalf
  | "end-half" => some .wordEndHalf
  | _ => none

/-- The kind of boundary in braces behind `\b`; a brace before anything else starts a count. -/
def boundary? (start : Position) : Reading (Option Assertion) := do
  let isNameChar (c : Char) : Bool := c.isAlpha || c == '-'
  let back ← get
  bumpSpace
  let first ← here
  match ← peek? with
  | none => fail .boundaryUnexpectedEnd (← spanFrom start)
  | some c =>
    if isNameChar c then
      let name ← takeSpaced isNameChar
      if (← peek?) != some '}' then fail .boundaryUnclosed (← spanFrom back.pos)
      let last ← here
      bump
      match boundaryKind? (String.ofList name) with
      | some kind => return some kind
      | none => fail .boundaryUnrecognized ⟨first, last⟩
    else
      set back
      return none

def wordBoundary (start : Position) : Reading Primitive := do
  if (← peek?) == some '{' then
    match ← boundary? start with
    | some kind => return .assertion (← spanFrom start) kind
    | none => return .assertion (← spanFrom start) .wordBoundary
  else return .assertion (← spanFrom start) .wordBoundary

def controlEscape? : Char → Option Char
  | 'a' => some '\x07'
  | 'f' => some '\x0c'
  | 't' => some '\t'
  | 'n' => some '\n'
  | 'r' => some '\r'
  | 'v' => some '\x0b'
  | _ => none

def assertionEscape? : Char → Option Assertion
  | 'A' => some .startText
  | 'z' => some .endText
  | 'B' => some .notWordBoundary
  | '<' => some .wordStart
  | '>' => some .wordEnd
  | _ => none

def simpleEscape (start : Position) (c : Char) : Reading Primitive := do
  bump
  let span ← spanFrom start
  if isEscapable c then return .literal ⟨span, c, false⟩
  else if c = 'b' then wordBoundary start
  else
    match controlEscape? c, assertionEscape? c with
    | some d, _ => return .literal ⟨span, d, false⟩
    | none, some kind => return .assertion span kind
    | none, none => fail .escapeUnrecognized span

def escape : Reading Primitive := do
  let start ← here
  bump
  match ← peek? with
  | none => fail .escapeUnexpectedEnd (← spanFrom start)
  | some c =>
    if c.isDigit then fail .backreference ⟨start, (← spanChar).stop⟩
    else
      match c with
      | 'x' => hex start 2
      | 'u' => hex start 4
      | 'U' => hex start 8
      | 'p' => property start false
      | 'P' => property start true
      | 'd' => perlClass start .digit false
      | 'D' => perlClass start .digit true
      | 's' => perlClass start .space false
      | 'S' => perlClass start .space true
      | 'w' => perlClass start .word false
      | 'W' => perlClass start .word true
      | c => simpleEscape start c

end Reading

end CatalogRspec.Pattern
