import CatalogRspec.Literal.Pretty
import CatalogRspec.Spec.Basic
import CatalogRspec.Unicode.Casing

namespace CatalogRspec

open Literal

def compiledCatalogDir : String := "catalogs"

/-- `contain_` and the type in lower case, with underscores for colons. -/
def matcher (type : String) : String :=
  "contain_" ++ Text.replace "::" "__" (Unicode.lowercase type)

def catalogFileStem (className : String) : String := Text.replace "::" "__" className

namespace ContentCheck

/-- Content starts in the first column, so that no indentation is added to its lines. -/
def body (title : String) : ContentCheck → List String
  | .digest hex => [
      "    content = catalogue.resource('file', '" ++ title ++ "').send(:parameters)[:content]",
      "    md5 = Digest::MD5.hexdigest(content)",
      "    expect(md5).to eq('" ++ hex ++ "')"]
  | .lines text => [
      "    [",
      "\"" ++ text ++ "\",",
      "    ].map \x7b |text| text.split(\"\\n\") \x7d.each do |lines|",
      "      verify_contents(catalogue, '" ++ title ++ "', lines)",
      "    end"]

def block (title : String) (c : ContentCheck) : List String :=
  ["  it 'is expected to contain expected content for file " ++ title ++ "' do"] ++
    c.body title ++ ["  end", ""]

end ContentCheck

namespace Example

def block (e : Example) : List String :=
  let title := escapeSingle e.title
  ["  it 'is expected to contain " ++ Unicode.lowercase e.type ++ " " ++ title ++ "' do",
    "    is_expected.to " ++ matcher e.type ++ "('" ++ title ++ "').with(\x7b"] ++
  e.expected.map (fun p => "      " ++ singleQuoted p.1 ++ " => " ++ p.2 ++ ",") ++
  ["    \x7d)", "  end", ""]

def lines (e : Example) : List String :=
  e.block ++
    match e.check with
    | none => []
    | some c => c.block (escapeSingle e.title)

end Example

namespace Spec

def header (s : Spec) : List String :=
  ["require 'spec_helper'"] ++
  (if s.params.isSome then ["require 'json'"] else []) ++
  (if s.usesDigest then ["require 'digest'"] else []) ++
  ["", "describe " ++ singleQuoted s.className ++ " do"]

/-- The class parameters, indented as deep as the block that holds them. -/
def paramsBlock : Option Json.Members → List String
  | none => []
  | some members =>
    ["  let(:params) do",
      "    " ++ Text.replace "\n" "\n    " (prettyHash members),
      "  end",
      ""]

def compileBlock (className : String) : List String :=
  ["  it 'should write a compiled catalog' do",
    "    is_expected.to compile.with_all_deps",
    "    File.write(",
    "      '" ++ compiledCatalogDir ++ "/" ++ escapeSingle (catalogFileStem className) ++ ".json',",
    "      PSON.pretty_generate(catalogue)",
    "    )",
    "  end"]

def lines (s : Spec) : List String :=
  s.header ++ paramsBlock s.params ++ s.examples.flatMap Example.lines ++
  (if s.compiles then compileBlock s.className else []) ++ ["end"]

def text (s : Spec) : String := Text.unlines s.lines

end Spec

end CatalogRspec
