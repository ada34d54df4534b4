namespace CatalogRspec.Yaml

/-- A place in a document; all three count from zero, the index in bytes. -/
structure Mark where
  index : Nat
  line : Nat
  column : Nat
deriving Repr, DecidableEq

namespace Mark

def start : Mark := ⟨0, 0, 0⟩

def isStart (m : Mark) : Bool := m.line == 0 && m.column == 0

def text (m : Mark) : String :=
  if m.isStart then "position " ++ toString m.index
  else "line " ++ toString (m.line + 1) ++ " column " ++ toString (m.column + 1)

end Mark

/-- What is wrong with a document. -/
inductive Problem where
  | controlCharacter
  | unknownStart
  | missingColon
  | entryNotAllowed
  | keyNotAllowed
  | valueNotAllowed
  | unknownDirective
  | missingDirectiveName
  | nonAlphabetical
  | missingLineBreak
  | missingVersionPoint
  | missingVersion
  | longVersion
  | missingWhitespace
  | missingWhitespaceOrLineBreak
  | missingExclamation
  | missingAngle
  | missingUri
  | missingOctet
  | badLeadingOctet
  | badTrailingOctet
  | missingAlphanumeric
  | zeroIndentation
  | tabInIndentation
  | tabAgainstIndentation
  | documentIndicator
  | unexpectedEnd
  | unknownEscape
  | missingHex
  | invalidCodePoint
  | unexpectedColon
  | missingDocumentStart
  | duplicateVersion
  | incompatibleVersion
  | duplicateTagDirective
  | undefinedHandle
  | missingContent
  | missingEntry
  | missingKey
  | missingSequenceEnd
  | missingMappingEnd
  | unknownAnchor
deriving Repr, DecidableEq

def Problem.message : Problem → String
  | .controlCharacter => "control characters are not allowed"
  | .unknownStart => "found character that cannot start any token"
  | .missingColon => "could not find expected ':'"
  | .entryNotAllowed => "block sequence entries are not allowed in this context"
  | .keyNotAllowed => "mapping keys are not allowed in this context"
  | .valueNotAllowed => "mapping values are not allowed in this context"
  | .unknownDirective => "found unknown directive name"
  | .missingDirectiveName => "could not find expected directive name"
  | .nonAlphabetical => "found unexpected non-alphabetical character"
  | .missingLineBreak => "did not find expected comment or line break"
  | .missingVersionPoint => "did not find expected digit or '.' character"
  | .missingVersion => "did not find expected version number"
  | .longVersion => "found extremely long version number"
  | .missingWhitespace => "did not find expected whitespace"
  | .missingWhitespaceOrLineBreak => "did not find expected whitespace or line break"
  | .missingExclamation => "did not find expected '!'"
  | .missingAngle => "did not find the expected '>'"
  | .missingUri => "did not find expected tag URI"
  | .missingOctet => "did not find URI escaped octet"
  | .badLeadingOctet => "found an incorrect leading UTF-8 octet"
  | .badTrailingOctet => "found an incorrect trailing UTF-8 octet"
  | .missingAlphanumeric => "did not find expected alphabetic or numeric character"
  | .zeroIndentation => "found an indentation indicator equal to 0"
  | .tabInIndentation => "found a tab character where an indentation space is expected"
  | .tabAgainstIndentation => "found a tab character that violates indentation"
  | .documentIndicator => "found unexpected document indicator"
  | .unexpectedEnd => "found unexpected end of stream"
  | .unknownEscape => "found unknown escape character"
  | .missingHex => "did not find expected hexdecimal number"
  | .invalidCodePoint => "found invalid Unicode character escape code"
  | .unexpectedColon => "found unexpected ':'"
  | .missingDocumentStart => "did not find expected <document start>"
  | .duplicateVersion => "found duplicate %YAML directive"
  | .incompatibleVersion => "found incompatible YAML document"
  | .duplicateTagDirective => "found duplicate %TAG directive"
  | .undefinedHandle => "found undefined tag handle"
  | .missingContent => "did not find expected node content"
  | .missingEntry => "did not find expected '-' indicator"
  | .missingKey => "did not find expected key"
  | .missingSequenceEnd => "did not find expected ',' or ']'"
  | .missingMappingEnd => "did not find expected ',' or '\x7d'"
  | .unknownAnchor => "unknown anchor"

/-- What was being read when a problem showed. -/
inductive Activity where
  | nextToken
  | simpleKey
  | directive
  | versionDirective
  | tagDirective
  | tagDirectiveHandle
  | tagDirectiveMark
  | tagDirectiveValue
  | anchor
  | alias
  | tag
  | tagValue
  | blockScalar
  | quotedScalar
  | quotedEscape
  | plainScalar
  | node
  | blockNode
  | flowNode
  | blockCollection
  | blockMapping
  | flowSequence
  | flowMapping
deriving Repr, DecidableEq

def Activity.message : Activity → String
  | .nextToken => "while scanning for the next token"
  | .simpleKey => "while scanning a simple key"
  | .directive => "while scanning a directive"
  | .versionDirective => "while scanning a %YAML directive"
  | .tagDirective => "while scanning a %TAG directive"
  | .tagDirectiveHandle => "while scanning a tag directive"
  | .tagDirectiveMark => "while parsing a tag directive"
  | .tagDirectiveValue => "while parsing a %TAG directive"
  | .anchor => "while scanning an anchor"
  | .alias => "while scanning an alias"
  | .tag => "while scanning a tag"
  | .tagValue => "while parsing a tag"
  | .blockScalar => "while scanning a block scalar"
  | .quotedScalar => "while scanning a quoted scalar"
  | .quotedEscape => "while parsing a quoted scalar"
  | .plainScalar => "while scanning a plain scalar"
  | .node => "while parsing a node"
  | .blockNode => "while parsing a block node"
  | .flowNode => "while parsing a flow node"
  | .blockCollection => "while parsing a block collection"
  | .blockMapping => "while parsing a block mapping"
  | .flowSequence => "while parsing a flow sequence"
  | .flowMapping => "while parsing a flow mapping"

/-- A problem, where it showed, and what was being read since when. -/
structure Fault where
  problem : Problem
  mark : Mark
  activity : Option (Activity × Mark) := none
deriving Repr, DecidableEq

/-- A place at the very start goes without saying, except for its index. -/
def Fault.message (f : Fault) : String :=
  let place :=
    if !f.mark.isStart then " at " ++ f.mark.text
    else if f.problem = .controlCharacter && f.mark.index ≠ 0 then
      " at position " ++ toString f.mark.index
    else ""
  let context :=
    match f.activity with
    | none => ""
    | some (a, m) =>
      let differs := m.line != f.mark.line || m.column != f.mark.column
      ", " ++ a.message ++ (if !m.isStart && differs then " at " ++ m.text else "")
  f.problem.message ++ place ++ context

end CatalogRspec.Yaml
