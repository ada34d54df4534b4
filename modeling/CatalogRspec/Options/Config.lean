import CatalogRspec.Options.Basic
import CatalogRspec.Text.Blank
import CatalogRspec.Unicode.Revision
import CatalogRspec.Yaml.Document
import CatalogRspec.Yaml.Node
import CatalogRspec.Yaml.Resolution

namespace CatalogRspec.Config

open Yaml

inductive Wanted where
  | boolean
  | string
  | sequence
  | mapping
  | field
deriving Repr, DecidableEq

def Wanted.name : Wanted → String
  | .boolean => "a boolean"
  | .string => "a string"
  | .sequence => "a sequence"
  | .mapping => "struct ConfigFile"
  | .field => "field identifier"

/-- The options that a config may set. -/
inductive Field where
  | excludes
  | onlyInclude
  | md5sums
  | strictContent
deriving Repr, DecidableEq

def Field.name : Field → String
  | .excludes => "excludes"
  | .onlyInclude => "only_include"
  | .md5sums => "md5sums"
  | .strictContent => "strict_content"

def Field.ofKey? (key : String) : Option Field :=
  [Field.excludes, .onlyInclude, .md5sums, .strictContent].find? fun f =>
    key == f.name || key == ":" ++ f.name

/-- Where in a config a value stands: at no key, at a key, or in a list at a key. -/
inductive Place where
  | top
  | key (key : String)
  | item (key : String) (index : Nat)
deriving Repr, DecidableEq

def Place.text : Place → String
  | .top => ""
  | .key k => k ++ ": "
  | .item k i => k ++ "[" ++ toString i ++ "]: "

/-- Why a text is not a config. -/
inductive Error where
  | fault (f : Fault)
  | ended
  | mismatch (place : Place) (found : Found) (wanted : Wanted) (mark : Mark)
  | invalid (place : Place) (text : String) (wanted : ScalarType) (mark : Mark)
  | duplicate (field : Field) (mark : Mark)
  | severalDocuments
deriving Repr, DecidableEq

/-- A character of a quoted text in a message: what shows nothing of its own is spelt out. -/
def quoteChar (c : Char) : List Char :=
  match c with
  | '"' => ['\\', '"']
  | '\\' => ['\\', '\\']
  | '\n' => ['\\', 'n']
  | '\r' => ['\\', 'r']
  | '\t' => ['\\', 't']
  | c =>
    if c.toNat = 0 then ['\\', '0']
    else if Unicode.graphemeExtendSet.contains c.toNat || !Unicode.printableSet.contains c.toNat then
      ['\\', 'u', '{'] ++ Nat.toDigits 16 c.toNat ++ ['}']
    else [c]

def quote (s : String) : String := "\"" ++ String.ofList (s.toList.flatMap quoteChar) ++ "\""

/-- Integers beyond 64 bits tell how wide they are. -/
def describeInteger (n : Int) : String :=
  "integer `" ++ n.repr ++ "`" ++
    (if 0x10000000000000000 ≤ n then " as u128"
      else if n < -0x8000000000000000 then " as i128"
      else "")

def describe : Found → String
  | .unit => "unit value"
  | .bool b => "boolean `" ++ (if b then "true" else "false") ++ "`"
  | .integer n => describeInteger n
  | .float t => "floating point `" ++ t ++ "`"
  | .string s => "string " ++ quote s
  | .sequence => "sequence"
  | .mapping => "map"

def expectation : ScalarType → String
  | .null => "null"
  | .bool => "a boolean"
  | .int => "an integer"
  | .float => "a float"

def atMark (m : Mark) : String := if m.isStart then "" else " at " ++ m.text

def Error.message : Error → String
  | .fault f => f.message
  | .ended => "EOF while parsing a value"
  | .mismatch place found wanted m =>
    place.text ++ "invalid type: " ++ describe found ++ ", expected " ++ wanted.name ++ atMark m
  | .invalid place text wanted m =>
    place.text ++ "invalid value: string " ++ quote text ++ ", expected " ++ expectation wanted ++
      atMark m
  | .duplicate field m => "duplicate field `" ++ field.name ++ "`" ++ atMark m
  | .severalDocuments =>
    "deserializing from YAML containing more than one document is not supported"

def Error.chain (e : Error) : List String := ["parsing config YAML", e.message]

def cutOff {α : Type} (d : Document) : Except Error α :=
  .error ((d.fault.map .fault).getD .ended)

/-- Refuses a node for what it is, or for not being what its tag says. -/
def mismatch {α : Type} (d : Document) (place : Place) (wanted : Wanted) :
    Node → Except Error α
  | .cut | .alias _ _ => cutOff d
  | .scalar m s =>
    match Found.ofScalar s with
    | .ok found => .error (.mismatch place found wanted m)
    | .error type => .error (.invalid place s.text type m)
  | .sequence m _ => .error (.mismatch place .sequence wanted m)
  | .mapping m _ => .error (.mismatch place .mapping wanted m)

/-- Whether the value counts as absent: it is empty or null, and not quoted. A tag for null has to be
right; the mistake is put down to the mapping, which starts at `since`. -/
def isAbsent (since : Mark) : Node → Except Error Bool
  | .scalar _ s =>
    if s.style ≠ .plain then .ok false
    else
      match s.tag with
      | none => .ok (s.text.isEmpty || isNull s.text)
      | some tag =>
        if ScalarType.ofTag? tag = some .null then
          if isNull s.text then .ok true else .error (.invalid .top s.text .null since)
        else .ok false
  | _ => .ok false

def isEmptyScalar : Node → Bool
  | .scalar _ s => s.style = .plain && s.text.isEmpty
  | _ => false

def string (d : Document) (place : Place) (wanted : Wanted) (n : Node) : Except Error String :=
  match n.resolve d.events with
  | .scalar _ s => .ok s.text
  | n => mismatch d place wanted n

def strings (d : Document) (key : String) (index : Nat) : List Node → Except Error (List String)
  | [] => .ok []
  | n :: rest => do
    let s ← string d (.item key index) .string n
    let more ← strings d key (index + 1) rest
    return s :: more

def stringList (d : Document) (key : String) : Node → Except Error (List String)
  | .sequence _ items => strings d key 0 items
  | n => if isEmptyScalar n then .ok [] else mismatch d (.key key) .sequence n

/-- Truth values are plain; in a literal block a tag has to say that it holds one. -/
def mayBeBool (s : Scalar) : Bool :=
  s.style = .plain || (s.style = .literal && s.tag.bind ScalarType.ofTag? = some .bool)

def boolean (d : Document) (key : String) (n : Node) : Except Error Bool :=
  match n with
  | .scalar _ s =>
    match (if mayBeBool s then bool? s.text else none) with
    | some b => .ok b
    | none => mismatch d (.key key) .boolean n
  | _ => mismatch d (.key key) .boolean n

def setField (d : Document) (o : Options) (f : Field) (key : String) (n : Node) :
    Except Error Options :=
  match f with
  | .excludes => (stringList d key n).map fun l => { o with excludes := l }
  | .onlyInclude => (stringList d key n).map fun l => { o with onlyInclude := l }
  | .md5sums => (boolean d key n).map fun b => { o with md5sums := b }
  | .strictContent => (boolean d key n).map fun b => { o with strictContent := b }

def keyLabel (key : String) : Node → String
  | .alias _ _ => "?"
  | _ => key

/-- Reads the entries of a mapping that starts at `since`. No field may be given twice. The value of
an unknown key does not count; if the document ends in it, there is no key after it either. -/
def ofEntries (d : Document) (since : Mark) (seen : List Field) (o : Options) :
    List (Node × Node) → Except Error Options
  | [] => .ok o
  | (k, v) :: rest => do
    let key ← string d .top .field k
    match Field.ofKey? key with
    | none => ofEntries d since seen o rest
    | some f =>
      if seen.contains f then .error (.duplicate f since)
      else
        let n := v.resolve d.events
        let o ← if ← isAbsent since n then pure o else setField d o f (keyLabel key k) n
        ofEntries d since (f :: seen) o rest

/-- A document without content sets nothing. -/
def ofNode (d : Document) : Node → Except Error Options
  | .mapping m entries => ofEntries d m [] {} entries
  | n => if isEmptyScalar n then .ok {} else mismatch d .top .mapping n

/-- A mistake in a value comes before the fault that ends the document behind it. -/
def ofDocument (d : Document) : Except Error Options := do
  let o ←
    if d.events.isEmpty && d.fault.isNone then pure {} else ofNode d (.ofEvents d.events)
  if d.fault.isSome then cutOff d
  if d.more then throw .severalDocuments
  return o

/-- Reads a config; a text of blanks sets nothing. -/
def parse (text : String) : Except Error Options :=
  if (Text.trim text.toList).isEmpty then .ok {} else ofDocument (.read text)

end CatalogRspec.Config
