import CatalogRspec.Text.Digit
import CatalogRspec.Text.Replace

namespace CatalogRspec.Literal

def escapeSingle (s : String) : String :=
  Text.replace "'" "\\'" (Text.replace "\\" "\\\\" s)

def singleQuoted (s : String) : String := "'" ++ escapeSingle s ++ "'"

def isControl (c : Char) : Bool := c.toNat < 0x20 || (0x7F ≤ c.toNat && c.toNat ≤ 0x9F)

/-- Whether a `#` before this text would start an interpolation. -/
def startsInterpolation : List Char → Bool
  | '{' :: _ | '$' :: _ | '@' :: _ => true
  | _ => false

/-- A character of a double-quoted string, before the text that follows it. -/
def escapeDouble (c : Char) (following : List Char) : List Char :=
  match c with
  | '\\' => ['\\', '\\']
  | '"' => ['\\', '"']
  | '\n' => ['\\', 'n']
  | '\t' => ['\\', 't']
  | '\r' => ['\\', 'r']
  | '\x1b' => ['\\', 'e']
  | '#' => if startsInterpolation following then ['\\', '#'] else ['#']
  | c => if isControl c then ['\\', 'u'] ++ Text.upperHex 4 c.toNat else [c]

def doubleBody : List Char → List Char
  | [] => []
  | c :: s => escapeDouble c s ++ doubleBody s

def doubleQuoted (s : String) : String := "\"" ++ String.ofList (doubleBody s.toList) ++ "\""

def isNameStart (c : Char) : Bool := c.isAlpha || c == '_'

def isNameChar (c : Char) : Bool := c.isAlphanum || c == '_'

def isSymbolName : List Char → Bool
  | [] => false
  | c :: s => isNameStart c && s.all isNameChar

/-- The key of a hash: a symbol if the name allows it, else a string. -/
def hashKey (key : String) : String :=
  if isSymbolName key.toList then ":" ++ key else doubleQuoted key

end CatalogRspec.Literal
