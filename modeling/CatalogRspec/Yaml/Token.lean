import CatalogRspec.Yaml.Scalar

namespace CatalogRspec.Yaml

inductive TokenKind where
  | streamEnd
  | versionDirective (major minor : Nat)
  | tagDirective (handle lead : String)
  | documentStart
  | documentEnd
  | blockSequenceStart
  | blockMappingStart
  | blockEnd
  | flowSequenceStart
  | flowSequenceEnd
  | flowMappingStart
  | flowMappingEnd
  | blockEntry
  | flowEntry
  | key
  | value
  | alias (name : String)
  | anchor (name : String)
  | tag (handle rest : String)
  | scalar (text : String) (style : Style)
deriving Repr, DecidableEq

structure Token where
  kind : TokenKind
  start : Mark
  stop : Mark

namespace Reading

/-- The name of an anchor or alias, which a blank or an indicator has to follow. -/
def anchorName (activity : Activity) : Reading String := do
  let start ← here
  skip
  let name ← takeWhile isWord
  let c ← next
  if name.isEmpty || !(c.endsWord || c.any fun c => "?:,]\x7d%@`".toList.contains c) then
    fail .missingAlphanumeric activity start
  return String.ofList name

def isUriChar (verbatim : Bool) (c : Char) : Bool :=
  isWord c || ";/?:@&=+$.%!~*'()".toList.contains c || (verbatim && ",[]".toList.contains c)

def octet? : List Char → Option Nat
  | '%' :: a :: b :: _ => Text.readDigits? Text.hexValue? 16 [a, b]
  | _ => none

def utf8Length? (lead : Nat) : Option Nat :=
  if lead < 0x80 then some 1
  else if lead / 0x20 = 6 then some 2
  else if lead / 0x10 = 14 then some 3
  else if lead / 8 = 30 then some 4
  else none

def trailingOctets (activity : Activity) (since : Mark) : Nat → Reading (List UInt8)
  | 0 => return []
  | count + 1 => do
    match octet? (← get).rest with
    | none => fail .missingOctet activity since
    | some n =>
      if n / 0x40 ≠ 2 then fail .badTrailingOctet activity since
      skip
      skip
      skip
      return UInt8.ofNat n :: (← trailingOctets activity since count)

def escapedChar (activity : Activity) (since : Mark) : Reading (List Char) := do
  match octet? (← get).rest with
  | none => fail .missingOctet activity since
  | some lead =>
    match utf8Length? lead with
    | none => fail .badLeadingOctet activity since
    | some length =>
      skip
      skip
      skip
      let more ← trailingOctets activity since (length - 1)
      let bytes := ByteArray.mk (UInt8.ofNat lead :: more).toArray
      return ((String.fromUTF8? bytes).getD "\ufffd").toList

def uriFrom (verbatim : Bool) (activity : Activity) (since : Mark) : Nat → Reading (List Char)
  | 0 => return []
  | count + 1 => do
    match ← next with
    | some '%' =>
      let c ← escapedChar activity since
      return c ++ (← uriFrom verbatim activity since count)
    | some c =>
      if isUriChar verbatim c then
        skip
        return c :: (← uriFrom verbatim activity since count)
      else return []
    | none => return []

/-- The rest of a tag behind `head`, of which a leading exclamation mark is no part. A character of
code zero ends it, though what follows is read. -/
def uri (verbatim : Bool) (activity : Activity) (head : List Char) (since : Mark) :
    Reading (List Char) := do
  let body ← uriFrom verbatim activity since (← steps)
  if head.isEmpty && body.isEmpty then fail .missingUri activity since
  return (head.drop 1 ++ body).takeWhile (·.toNat ≠ 0)

def tagHandle (activity : Activity) (since : Mark) : Reading (List Char) := do
  if (← next) != some '!' then fail .missingExclamation activity since
  skip
  let word ← takeWhile isWord
  if (← next) == some '!' then
    skip
    return ['!'] ++ word ++ ['!']
  else return '!' :: word

def tag (inFlow : Bool) : Reading TokenKind := do
  let start ← here
  let (handle, rest) ←
    if (← ahead 1) == some '<' then do
      skip
      skip
      let rest ← uri true .tagValue [] start
      if (← next) != some '>' then fail .missingAngle .tag start
      skip
      pure ([], rest)
    else do
      let handle ← tagHandle .tag start
      if handle.length > 1 && handle.getLast? == some '!' then
        pure (handle, ← uri false .tagValue [] start)
      else
        let rest ← uri false .tagValue handle start
        pure (if rest.isEmpty then ([], ['!']) else (['!'], rest))
  let c ← next
  if !((inFlow && c == some ',') || c.endsWord) then
    fail .missingWhitespaceOrLineBreak .tag start
  return .tag (String.ofList handle) (String.ofList rest)

def versionNumber (since : Mark) : Reading Nat := do
  let digits ← takeFrom Char.isDigit 9
  if (← next).any Char.isDigit then fail .longVersion .versionDirective since
  if digits.isEmpty then fail .missingVersion .versionDirective since
  return (Text.readDigits? Text.decimalValue? 10 digits).getD 0

def versionDirective (since : Mark) : Reading TokenKind := do
  skipBlanks
  let major ← versionNumber since
  if (← next) != some '.' then fail .missingVersionPoint .versionDirective since
  skip
  let minor ← versionNumber since
  return .versionDirective major minor

def tagDirective (since : Mark) : Reading TokenKind := do
  skipBlanks
  let handle ← tagHandle .tagDirectiveHandle since
  if handle.length > 1 && handle.getLast? != some '!' then
    fail .missingExclamation .tagDirectiveMark since
  if !(← next).any isBlank then fail .missingWhitespace .tagDirective since
  skipBlanks
  let lead ← uri true .tagDirectiveValue [] since
  if !(← next).endsWord then fail .missingWhitespaceOrLineBreak .tagDirective since
  return .tagDirective (String.ofList handle) (String.ofList lead)

/-- A line that starts with a percent sign. -/
def directive : Reading Token := do
  let start ← here
  skip
  let name ← takeWhile isWord
  if name.isEmpty then fail .missingDirectiveName .directive start
  if !(← next).endsWord then fail .nonAlphabetical .directive start
  let kind ←
    match String.ofList name with
    | "YAML" => versionDirective start
    | "TAG" => tagDirective start
    | _ => fail .unknownDirective .directive start
  let stop ← here
  endLine .directive start
  return ⟨kind, start, stop⟩

end Reading

end CatalogRspec.Yaml
