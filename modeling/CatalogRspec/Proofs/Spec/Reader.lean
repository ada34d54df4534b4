import Mathlib.Data.List.Infix
import CatalogRspec.Proofs.Literal.Reader
import CatalogRspec.Spec.Basic
import CatalogRspec.Text.Replace

namespace CatalogRspec

open Literal Text

/-- What a line of an example compares a parameter with: a literal, and what it stands for. -/
structure Comparison where
  name : String
  literal : String
  value : Datum

/-- What an example and the check of content behind it tell. The type is in lower case, and content
that is checked line by line comes without escapes; where it starts an interpolation, that is taken as
it is spelt. -/
structure ExampleReading where
  type : String
  title : String
  expected : List Comparison
  check : Option ContentCheck

/-- What a spec tells about the class and the resources it was made from. -/
structure SpecReading where
  className : String
  params : Option (List (Key × Datum))
  examples : List ExampleReading

namespace SpecReader

def expect (text : String) (s : List Char) : Option (List Char) := s.dropPrefix? text.toList

def readQuoted (s : List Char) : Option (String × List Char) := do
  let s ← expect "'" s
  (readSingle s).map (mapRead String.ofList)

/-- A literal with quotes of any kind, or without. -/
def readLiteral : List Char → Option (Datum × List Char)
  | '\'' :: s => (readSingle s).map (mapRead (.string ∘ String.ofList))
  | s => readDatum s.length s

/-- A literal as it is written, with what it stands for. -/
def readSource (s : List Char) : Option ((String × Datum) × List Char) :=
  (readLiteral s).map fun (d, rest) => ((String.ofList (s.take (s.length - rest.length)), d), rest)

def readHeader (s : List Char) : Option (String × List Char) := do
  let s ← expect (unlines ["require 'spec_helper'"]) s
  let s := (expect (unlines ["require 'json'"]) s).getD s
  let s := (expect (unlines ["require 'digest'"]) s).getD s
  let s ← expect (unlines [""] ++ "describe ") s
  let (name, s) ← readQuoted s
  let s ← expect (unlines [" do"]) s
  return (name, s)

def readParams (s : List Char) : Option (Option (List (Key × Datum)) × List Char) :=
  match expect (unlines ["  let(:params) do"]) s with
  | none => some (none, s)
  | some s =>
    match readDatum s.length s with
    | some (.hash members, s) => (expect (unlines ["", "  end", ""]) s).map (some members, ·)
    | _ => none

def readDescription (s : List Char) : Option (String × List Char) := do
  let s ← expect "  it " s
  let (text, s) ← readQuoted s
  let s ← expect (unlines [" do"]) s
  return (text, s)

/-- One line for each parameter; the fuel bounds their number. -/
def readExpected : Nat → List Char → Option (List Comparison × List Char)
  | 0, _ => none
  | fuel + 1, s =>
    match expect "      " s with
    | none => some ([], s)
    | some s => do
      let (name, s) ← readQuoted s
      let s ← expect " => " s
      let ((literal, value), s) ← readSource s
      let s ← expect (unlines [","]) s
      (readExpected fuel s).map (mapRead (⟨name, literal, value⟩ :: ·))

/-- An example without a check of content. The type is a word of its description. -/
def readPlain (s : List Char) : Option (ExampleReading × List Char) := do
  let (text, s) ← readDescription s
  let subject ← expect "is expected to contain " text.toList
  let s ← expect "    is_expected.to contain_" s
  let s ← expect "(" (s.dropWhile (· != '('))
  let (title, s) ← readQuoted s
  let s ← expect (unlines [").with(\x7b"]) s
  let (expected, s) ← readExpected s.length s
  let s ← expect (unlines ["    \x7d)", "  end", ""]) s
  return (⟨String.ofList (subject.takeWhile (· != ' ')), title, expected, none⟩, s)

/-- Content between double quotes, the first of which is passed already. -/
def readLines (s : List Char) : Option (ContentCheck × List Char) := do
  let (body, s) ← readDouble .spelt s
  let s ← expect (unlines [",", "    ].map \x7b |text| text.split(\"\\n\") \x7d.each do |lines|"]) s
  let s ← expect "      verify_contents(catalogue, " s
  let (_, s) ← readQuoted s
  let s ← expect (unlines [", lines)", "    end", "  end", ""]) s
  return (.lines (String.ofList body), s)

def readDigest (s : List Char) : Option (ContentCheck × List Char) := do
  let (_, s) ← readQuoted s
  let s ← expect (unlines [").send(:parameters)[:content]",
    "    md5 = Digest::MD5.hexdigest(content)"]) s
  let s ← expect "    expect(md5).to eq(" s
  let (hex, s) ← readQuoted s
  let s ← expect (unlines [")", "  end", ""]) s
  return (.digest hex, s)

/-- A check of content. Its description may be that of another example, and its second line never is
that of one. -/
def readCheck (s : List Char) : Option (ContentCheck × List Char) := do
  let (_, s) ← readDescription s
  match expect (unlines ["    ["] ++ "\"") s with
  | some s => readLines s
  | none =>
    match expect "    content = catalogue.resource('file', " s with
    | some s => readDigest s
    | none => none

def readExample (s : List Char) : Option (ExampleReading × List Char) := do
  let (e, s) ← readPlain s
  match readCheck s with
  | some (c, s) => return ({ e with check := some c }, s)
  | none => return (e, s)

def readExamples : Nat → List Char → Option (List ExampleReading × List Char)
  | 0, _ => none
  | fuel + 1, s =>
    match readExample s with
    | some (e, s) => (readExamples fuel s).map (mapRead (e :: ·))
    | none => some ([], s)

def skipCompiling (s : List Char) : Option (List Char) := do
  let (_, s) ← readDescription s
  let s ← expect (unlines ["    is_expected.to compile.with_all_deps", "    File.write("]) s
  let s ← expect "      " s
  let (_, s) ← readQuoted s
  expect (unlines [",", "      PSON.pretty_generate(catalogue)", "    )", "  end"]) s

def read (text : String) : Option SpecReading := do
  let (className, s) ← readHeader text.toList
  let (params, s) ← readParams s
  let (examples, s) ← readExamples s.length s
  if (skipCompiling s).getD s = (unlines ["end"]).toList then some ⟨className, params, examples⟩
  else none

end SpecReader

end CatalogRspec
