import CatalogRspec.Pattern.Position
import CatalogRspec.Text.Replace

namespace CatalogRspec.Pattern

/-- What is wrong with a pattern. -/
inductive FaultKind where
  | classEscapeInvalid
  | classRangeInvalid
  | classRangeLiteral
  | classUnclosed
  | decimalInvalid
  | escapeHexEmpty
  | escapeHexInvalid
  | escapeHexInvalidDigit
  | escapeUnexpectedEnd
  | escapeUnrecognized
  | flagDanglingNegation
  | flagDuplicate
  | flagRepeatedNegation
  | flagUnexpectedEnd
  | flagUnrecognized
  | groupNameDuplicate
  | groupNameEmpty
  | groupNameInvalid
  | groupNameUnexpectedEnd
  | groupUnclosed
  | groupUnopened
  | nestedTooDeep
  | countInvalid
  | countEmpty
  | countUnclosed
  | repetitionMissing
  | boundaryUnclosed
  | boundaryUnrecognized
  | boundaryUnexpectedEnd
  | unicodeClassInvalid
  | backreference
  | lookAround
  | unicodeNotAllowed
  | invalidUtf8
  | propertyNotFound
  | propertyValueNotFound
deriving Repr, DecidableEq

/-- At most this many groups, brackets and repetitions may lie within one another. -/
def maxNesting : Nat := 250

def FaultKind.message : FaultKind → String
  | .classEscapeInvalid => "invalid escape sequence found in character class"
  | .classRangeInvalid => "invalid character class range, the start must be <= the end"
  | .classRangeLiteral => "invalid range boundary, must be a literal"
  | .classUnclosed => "unclosed character class"
  | .decimalInvalid => "decimal literal invalid"
  | .escapeHexEmpty => "hexadecimal literal empty"
  | .escapeHexInvalid => "hexadecimal literal is not a Unicode scalar value"
  | .escapeHexInvalidDigit => "invalid hexadecimal digit"
  | .escapeUnexpectedEnd => "incomplete escape sequence, reached end of pattern prematurely"
  | .escapeUnrecognized => "unrecognized escape sequence"
  | .flagDanglingNegation => "dangling flag negation operator"
  | .flagDuplicate => "duplicate flag"
  | .flagRepeatedNegation => "flag negation operator repeated"
  | .flagUnexpectedEnd => "expected flag but got end of regex"
  | .flagUnrecognized => "unrecognized flag"
  | .groupNameDuplicate => "duplicate capture group name"
  | .groupNameEmpty => "empty capture group name"
  | .groupNameInvalid => "invalid capture group character"
  | .groupNameUnexpectedEnd => "unclosed capture group name"
  | .groupUnclosed => "unclosed group"
  | .groupUnopened => "unopened group"
  | .nestedTooDeep =>
    "exceed the maximum number of nested parentheses/brackets (" ++ toString maxNesting ++ ")"
  | .countInvalid => "invalid repetition count range, the start must be <= the end"
  | .countEmpty => "repetition quantifier expects a valid decimal"
  | .countUnclosed => "unclosed counted repetition"
  | .repetitionMissing => "repetition operator missing expression"
  | .boundaryUnclosed =>
    "special word boundary assertion is either unclosed or contains an invalid character"
  | .boundaryUnrecognized =>
    "unrecognized special word boundary assertion, valid choices are: start, end, start-half " ++
    "or end-half"
  | .boundaryUnexpectedEnd =>
    "found either the beginning of a special word boundary or a bounded repetition on a \\b with " ++
    "an opening brace, but no closing brace"
  | .unicodeClassInvalid => "invalid Unicode character class"
  | .backreference => "backreferences are not supported"
  | .lookAround => "look-around, including look-ahead and look-behind, is not supported"
  | .unicodeNotAllowed => "Unicode not allowed here"
  | .invalidUtf8 => "pattern can match invalid UTF-8"
  | .propertyNotFound => "Unicode property not found"
  | .propertyValueNotFound => "Unicode property value not found"

/-- A fault, where it is, and where what it clashes with is. -/
structure Fault where
  kind : FaultKind
  span : Span
  clash : Option Span := none
deriving Repr, DecidableEq

def dropReturn (line : String) : String :=
  if line.endsWith "\r" then String.ofList line.toList.dropLast else line

/--
The lines of a text, which end in a line feed or in a carriage return and a line feed. A line feed at
the end of the text starts no further line.
-/
def lines (s : String) : List String :=
  let pieces := Text.split "\n" s
  let full := pieces.dropLast.map dropReturn
  match pieces.getLast? with
  | none | some "" => full
  | some piece => full ++ [piece]

def spaces (n : Nat) : String := String.ofList (List.replicate n ' ')

/-- Carets under the spans of one line; `column` is the first place not yet written. -/
def underline (column : Nat) : List Span → String
  | [] => ""
  | s :: rest =>
    let width := max 1 (s.stop.column - s.start.column)
    let gap := s.start.column - column
    spaces gap ++ String.ofList (List.replicate width '^') ++ underline (column + gap + width) rest

/-- A line of the pattern and, if faults are on it, a line of carets. -/
def annotate (numberWidth : Nat) (spans : List Span) (number : Nat) (line : String) : List String :=
  let label := toString number
  let front :=
    if numberWidth = 0 then spaces 4 else spaces (numberWidth - label.length) ++ label ++ ": "
  let here := spans.filter fun s => s.isOneLine && s.start.line == number
  (front ++ line) ::
    if here.isEmpty then []
    else [spaces (if numberWidth = 0 then 4 else numberWidth + 2) ++ underline 1 here]

def annotateFrom (numberWidth : Nat) (spans : List Span) (number : Nat) : List String → List String
  | [] => []
  | line :: rest =>
    annotate numberWidth spans number line ++ annotateFrom numberWidth spans (number + 1) rest

def crossesLines (s : Span) : String :=
  "on line " ++ toString s.start.line ++ " (column " ++ toString s.start.column ++
    ") through line " ++ toString s.stop.line ++ " (column " ++ toString (s.stop.column - 1) ++ ")"

/-- The report on a fault: the pattern with the faulty places marked, and what is wrong. -/
def Fault.message (source : String) (f : Fault) : String :=
  let spans := (f.span :: f.clash.toList).mergeSort Span.le
  let count := (lines source).length + (if source.endsWith "\n" then 1 else 0)
  let width := if count ≤ 1 then 0 else (toString count).length
  let body := annotateFrom width spans 1 (lines source)
  let final := "error: " ++ f.kind.message
  if source.contains '\n' then
    let divider := String.ofList (List.replicate 79 '~')
    let across := (spans.filter (!·.isOneLine)).map crossesLines
    String.intercalate "\n"
      (["regex parse error:", divider] ++ body ++ [divider] ++ across ++ [final])
  else String.intercalate "\n" (["regex parse error:"] ++ body ++ [final])

end CatalogRspec.Pattern
