import CatalogRspec.Literal.Inspect

namespace CatalogRspec.Literal

open Json

inductive Key where
  | symbol (name : String)
  | string (text : String)
deriving Repr, DecidableEq

/-- What a literal stands for. Numbers are known by their text. -/
inductive Datum where
  | nil
  | bool (b : Bool)
  | number (text : String)
  | string (s : String)
  | array (items : List Datum)
  | hash (members : List (Key × Datum))

def Key.ofName (name : String) : Key :=
  if isSymbolName name.toList then .symbol name else .string name

namespace Datum

mutual

/-- A document as a literal, with keys that are spelt by `key`. -/
def ofValue (key : String → Key) : Value → Datum
  | .null => .nil
  | .bool b => .bool b
  | .number n => .number n.text
  | .string s => .string s
  | .array items => .array (ofItems key items)
  | .object members => .hash (ofMembers key members)

def ofItems (key : String → Key) : List Value → List Datum
  | [] => []
  | v :: rest => ofValue key v :: ofItems key rest

def ofMembers (key : String → Key) : List (String × Value) → List (Key × Datum)
  | [] => []
  | (k, v) :: rest => (key k, ofValue key v) :: ofMembers key rest

end

end Datum

def mapRead {α β : Type} (f : α → β) : α × List Char → β × List Char
  | (a, rest) => (f a, rest)

/--
The body of a single-quoted string, and the text behind the closing quote. A backslash stands for
the backslash or the quote behind it, and else for itself.
-/
def readSingle : List Char → Option (List Char × List Char)
  | [] => none
  | '\\' :: c :: s =>
    if c = '\\' ∨ c = '\'' then (readSingle s).map (mapRead (c :: ·))
    else (readSingle (c :: s)).map (mapRead ('\\' :: ·))
  | c :: s => if c = '\'' then some ([], s) else (readSingle s).map (mapRead (c :: ·))

def unescape? : Char → Option Char
  | 'n' => some '\n'
  | 't' => some '\t'
  | 'r' => some '\r'
  | 'e' => some '\x1b'
  | c => if c ∈ ['\\', '"', '#', '$', '@'] then some c else none

/-- How a reader takes the start of an interpolation: as a fault, or as any other character. -/
inductive Interpolation where
  | refused
  | spelt
deriving Repr, DecidableEq

/-- The body of a double-quoted string, and the text behind the closing quote. -/
def readDouble (i : Interpolation) : List Char → Option (List Char × List Char)
  | [] => none
  | '\\' :: 'u' :: a :: b :: c :: d :: s => do
    let n ← Text.readDigits? Text.hexValue? 16 [a, b, c, d]
    (readDouble i s).map (mapRead (Char.ofNat n :: ·))
  | '\\' :: c :: s => do
    let d ← unescape? c
    (readDouble i s).map (mapRead (d :: ·))
  | c :: s =>
    if c = '"' then some ([], s)
    else if c = '#' ∧ startsInterpolation s ∧ i = .refused then none
    else (readDouble i s).map (mapRead (c :: ·))

def skipBlank (s : List Char) : List Char := s.dropWhile fun c => c == ' ' || c == '\n'

def isWordChar (c : Char) : Bool := c.isAlphanum || c == '+' || c == '-' || c == '.'

def datumOfWord? (word : List Char) : Option Datum :=
  if word = ['n', 'i', 'l'] then some .nil
  else if word = ['t', 'r', 'u', 'e'] then some (.bool true)
  else if word = ['f', 'a', 'l', 's', 'e'] then some (.bool false)
  else
    match word with
    | c :: _ => if c.isDigit || c == '-' then some (.number (String.ofList word)) else none
    | [] => none

def readWord (s : List Char) : Option (Datum × List Char) :=
  (datumOfWord? (s.takeWhile isWordChar)).map (·, s.dropWhile isWordChar)

def readKey : List Char → Option (Key × List Char)
  | ':' :: s =>
    let name := s.takeWhile isNameChar
    if isSymbolName name then some (.symbol (String.ofList name), s.dropWhile isNameChar) else none
  | '"' :: s => (readDouble .refused s).map (mapRead (.string ∘ String.ofList))
  | _ => none

/-- Items with commas between them up to a closing bracket; the fuel bounds their number. -/
def readSeq {α : Type} (close : Char) (read : List Char → Option (α × List Char)) :
    Nat → List Char → Option (List α × List Char)
  | 0, _ => none
  | fuel + 1, s =>
    match skipBlank s with
    | [] => none
    | c :: s =>
      if c = close then some ([], s)
      else do
        let (a, s) ← read (c :: s)
        match skipBlank s with
        | [] => none
        | d :: s =>
          if d = ',' then (readSeq close read fuel s).map (mapRead (a :: ·))
          else if d = close then some ([a], s)
          else none

def readMember {α : Type} (read : List Char → Option (α × List Char)) (s : List Char) :
    Option ((Key × α) × List Char) := do
  let (k, s) ← readKey s
  match skipBlank s with
  | '=' :: '>' :: s => (read s).map (mapRead (k, ·))
  | _ => none

/-- A literal. The fuel bounds its depth and its width; the length of the text is always enough. -/
def readDatum : Nat → List Char → Option (Datum × List Char)
  | 0, _ => none
  | fuel + 1, s =>
    match skipBlank s with
    | '[' :: s => (readSeq ']' (readDatum fuel) fuel s).map (mapRead .array)
    | '{' :: s => (readSeq '}' (readMember (readDatum fuel)) fuel s).map (mapRead .hash)
    | '"' :: s => (readDouble .refused s).map (mapRead (.string ∘ String.ofList))
    | s => readWord s

end CatalogRspec.Literal
