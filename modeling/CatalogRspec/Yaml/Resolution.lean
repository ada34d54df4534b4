import CatalogRspec.Json.Number
import CatalogRspec.Text.Digit
import CatalogRspec.Yaml.Event

namespace CatalogRspec.Yaml

/-- What a value is found to be. A float is kept as its text. -/
inductive Found where
  | unit
  | bool (b : Bool)
  | integer (n : Int)
  | float (text : String)
  | string (s : String)
  | sequence
  | mapping
deriving Repr, DecidableEq

/-- The types that a tag can give to a scalar. -/
inductive ScalarType where
  | null
  | bool
  | int
  | float
deriving Repr, DecidableEq

def isNull (s : String) : Bool := s == "null" || s == "Null" || s == "NULL" || s == "~"

def bool? (s : String) : Option Bool :=
  if s == "true" || s == "True" || s == "TRUE" then some true
  else if s == "false" || s == "False" || s == "FALSE" then some false
  else none

def ScalarType.name : ScalarType → String
  | .null => "null"
  | .bool => "bool"
  | .int => "int"
  | .float => "float"

def ScalarType.tag (t : ScalarType) : String := "tag:yaml.org,2002:" ++ t.name

def ScalarType.ofTag? (tag : String) : Option ScalarType :=
  [ScalarType.null, .bool, .int, .float].find? (·.tag == tag)

/-- A number with a sign is read without a plus; a second sign makes it no number. -/
def unsigned (chars : List Char) : List Char :=
  match chars with
  | '+' :: rest => rest
  | _ => chars

/-- Several digits with a zero in front are text. -/
def isPadded (chars : List Char) : Bool :=
  let digits :=
    match chars with
    | '+' :: rest | '-' :: rest => rest
    | _ => chars
  match digits with
  | '0' :: rest => !rest.isEmpty && rest.all Char.isDigit
  | _ => false

def digitsIn? (value? : Char → Option Nat) (base : Nat) (digits : List Char) : Option Nat :=
  if digits.isEmpty then none
  else Text.readDigits? (fun c => (value? c).filter (· < base)) base digits

def natural? (chars : List Char) : Option Nat :=
  match chars with
  | '0' :: 'x' :: rest => digitsIn? Text.hexValue? 16 rest
  | '0' :: 'o' :: rest => digitsIn? Text.hexValue? 8 rest
  | '0' :: 'b' :: rest => digitsIn? Text.hexValue? 2 rest
  | _ => if isPadded chars then none else digitsIn? Text.decimalValue? 10 chars

def integer? (s : String) : Option Int :=
  match s.toList with
  | '-' :: rest => do
    let n ← natural? rest
    if n ≤ 0x80000000000000000000000000000000 then some (-(n : Int)) else none
  | chars => do
    let n ← natural? (unsigned chars)
    if n < 0x100000000000000000000000000000000 then some (n : Int) else none

def exponent? (chars : List Char) : Option Int :=
  match chars with
  | [] => some 0
  | mark :: rest =>
    if mark = 'e' || mark = 'E' then
      match rest with
      | '-' :: ds => (digitsIn? Text.decimalValue? 10 ds).map fun n => -(n : Int)
      | ds => (digitsIn? Text.decimalValue? 10 (unsigned ds)).map fun n => (n : Int)
    else none

def decimal? (chars : List Char) : Option Json.Decimal :=
  let whole := chars.takeWhile Char.isDigit
  let (fraction, rest) :=
    match chars.dropWhile Char.isDigit with
    | '.' :: more => (more.takeWhile Char.isDigit, more.dropWhile Char.isDigit)
    | more => ([], more)
  if whole.isEmpty && fraction.isEmpty then none
  else do
    let n ← Text.readDigits? Text.decimalValue? 10 (whole ++ fraction)
    let e ← exponent? rest
    some ⟨n, e - (fraction.length : Int)⟩

def positionalText (x : Json.Binary64) : String :=
  let sign := if x.negative then ['-'] else []
  let body :=
    if x.significand = 0 then "0.0".toList
    else
      let d := x.shortest
      let digits := d.digits.repr.toList
      Json.positional (Json.trimZeros digits) (d.scale + (digits.length : Int) - 1)
  String.ofList (sign ++ body)

def specialFloat? (s : String) : Option String :=
  let plus := String.ofList (unsigned s.toList)
  if [".inf", ".Inf", ".INF"].contains plus then some "inf"
  else if ["-.inf", "-.Inf", "-.INF"].contains s then some "-inf"
  else if [".nan", ".NaN", ".NAN"].contains s then some "NaN"
  else none

def finiteFloat? (s : String) : Option String := do
  let (negative, chars) :=
    match s.toList with
    | '-' :: rest => (true, rest)
    | chars => (false, unsigned chars)
  let d ← decimal? chars
  let x ← Json.Binary64.ofDecimal? negative d
  some (positionalText x)

def float? (s : String) : Option String :=
  if isPadded s.toList then none else (specialFloat? s).orElse fun _ => finiteFloat? s

def Found.ofPlain (s : String) : Found :=
  if s.isEmpty || isNull s then .unit
  else
    match bool? s, integer? s, float? s with
    | some b, _, _ => .bool b
    | none, some n, _ => .integer n
    | none, none, some t => .float t
    | none, none, none => .string s

def Found.ofType? (s : String) : ScalarType → Option Found
  | .null => if isNull s then some .unit else none
  | .bool => (bool? s).map .bool
  | .int => (integer? s).map .integer
  | .float => ((specialFloat? s).orElse fun _ => finiteFloat? s).map .float

/-- A tag of one of the types says what a text has to be. With no tag, or one of its own that starts
with an exclamation mark, a plain text counts by what it looks like. -/
def Found.ofScalar (s : Scalar) : Except ScalarType Found :=
  match s.tag.bind ScalarType.ofTag? with
  | some t =>
    match ofType? s.text t with
    | some found => .ok found
    | none => .error t
  | none =>
    if s.style = .plain && s.tag.all (·.startsWith "!") then .ok (.ofPlain s.text)
    else .ok (.string s.text)

end CatalogRspec.Yaml
