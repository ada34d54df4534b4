namespace CatalogRspec.Json

/-- Why a text is not a JSON document. -/
inductive SyntaxFault where
  | endInValue
  | endInList
  | endInObject
  | endInString
  | expectedValue
  | expectedWord
  | expectedColon
  | expectedListEnd
  | expectedObjectEnd
  | keyNotString
  | trailingComma
  | trailingCharacters
  | invalidNumber
  | numberOutOfRange
  | invalidEscape
  | endInEscape
  | loneSurrogate
  | controlCharacter
  | tooDeep
deriving Repr, DecidableEq

def SyntaxFault.message : SyntaxFault → String
  | .endInValue => "EOF while parsing a value"
  | .endInList => "EOF while parsing a list"
  | .endInObject => "EOF while parsing an object"
  | .endInString => "EOF while parsing a string"
  | .expectedValue => "expected value"
  | .expectedWord => "expected ident"
  | .expectedColon => "expected `:`"
  | .expectedListEnd => "expected `,` or `]`"
  | .expectedObjectEnd => "expected `,` or `\x7d`"
  | .keyNotString => "key must be a string"
  | .trailingComma => "trailing comma"
  | .trailingCharacters => "trailing characters"
  | .invalidNumber => "invalid number"
  | .numberOutOfRange => "number out of range"
  | .invalidEscape => "invalid escape"
  | .endInEscape => "unexpected end of hex escape"
  | .loneSurrogate => "lone leading surrogate in hex escape"
  | .controlCharacter => "control character (\\u0000-\\u001F) found while parsing a string"
  | .tooDeep => "recursion limit exceeded"

/-- A fault and the place up to which the text was read; columns count bytes. -/
structure SyntaxError where
  fault : SyntaxFault
  line : Nat
  column : Nat
deriving Repr, DecidableEq

def SyntaxError.message (e : SyntaxError) : String :=
  e.fault.message ++ " at line " ++ toString e.line ++ " column " ++ toString e.column

/-- Line breaks before the byte at `offset`, and the first byte of its line. -/
def lineStart (offset : Nat) (seen : Nat) (line start : Nat) : List Char → Nat × Nat
  | [] => (line, start)
  | c :: s =>
    if seen < offset then
      if c = '\n' then lineStart offset (seen + 1) (line + 1) (seen + 1) s
      else lineStart offset (seen + c.utf8Size) line start s
    else (line, start)

/-- The error for a fault found when the bytes before `offset` had been read. -/
def SyntaxError.ofOffset (text : List Char) (fault : SyntaxFault) (offset : Nat) : SyntaxError :=
  let (line, start) := lineStart offset 0 1 0 text
  ⟨fault, line, offset - start⟩

end CatalogRspec.Json
