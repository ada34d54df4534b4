import CatalogRspec.Proofs.Spec.Assembly
import CatalogRspec.Proofs.Spec.TypeName
import CatalogRspec.Proofs.Text.Lines
import CatalogRspec.Spec.Text

namespace CatalogRspec

open Literal Text

namespace Example

def expectedLine (p : String × String) : String :=
  "      " ++ singleQuoted p.1 ++ " => " ++ p.2 ++ ","

theorem unlines_expectedLines (p : String × String) (ps : List (String × String)) :
    unlines ((p :: ps).map expectedLine) =
      "      " ++ singleQuoted p.1 ++ " => " ++ p.2 ++ unlines [","] ++
        unlines (ps.map expectedLine) := by
  have hline : expectedLine p = "      " ++ singleQuoted p.1 ++ " => " ++ p.2 ++ "," := rfl
  simp only [List.map_cons, unlines_cons, unlines_nil, hline, String.append_assoc,
    String.append_empty]

theorem unlines_block {e : Example} (h : ∀ c ∈ e.type.toList, isTypeChar c = true) :
    unlines e.block =
      "  it " ++
        singleQuoted ("is expected to contain " ++ Unicode.lowercase e.type ++ " " ++ e.title) ++
        unlines [" do"] ++ "    is_expected.to contain_" ++ flatType e.type ++ "(" ++
        singleQuoted e.title ++ unlines [").with(\x7b"] ++ unlines (e.expected.map expectedLine) ++
        unlines ["    \x7d)", "  end", ""] := by
  have hfixed : escapeSingle "is expected to contain " = "is expected to contain " :=
    escapeSingle_of_isPlain (by decide +kernel)
  have htype := escapeSingle_of_isPlain (isPlain_of_isTypeChar (isTypeChar_lowercase h))
  have hspace : escapeSingle " " = " " := escapeSingle_of_isPlain (by decide)
  have hmatcher : matcher e.type = "contain_" ++ flatType e.type := rfl
  have hit : "  it 'is expected to contain " = "  it " ++ ("'" ++ "is expected to contain ") := by
    simp
  have hexpected : "    is_expected.to contain_" = "    is_expected.to " ++ "contain_" := by simp
  have hopen : "('" = "(" ++ "'" := by simp
  have hwith : "').with(\x7b" = "'" ++ ").with(\x7b" := by simp
  have hdo : "' do" = "'" ++ " do" := by simp
  have hlines : (e.expected.map fun p => "      " ++ singleQuoted p.1 ++ " => " ++ p.2 ++ ",") =
      e.expected.map expectedLine := rfl
  rw [block, unlines_append, unlines_append, hlines, hmatcher, hit, hexpected, hopen, hwith, hdo]
  simp only [singleQuoted, escapeSingle_append, hfixed, htype, hspace, unlines_cons, unlines_nil,
    String.append_assoc, String.append_empty]

end Example

namespace ContentCheck

theorem escapeSingle_description (title : String) :
    escapeSingle ("is expected to contain expected content for file " ++ title) =
      "is expected to contain expected content for file " ++ escapeSingle title := by
  rw [escapeSingle_append, escapeSingle_of_isPlain (by decide +kernel)]

theorem unlines_block_lines (title body : String) :
    unlines ((lines body).block (escapeSingle title)) =
      "  it " ++ singleQuoted ("is expected to contain expected content for file " ++ title) ++
        unlines [" do"] ++ unlines ["    ["] ++ "\"" ++ body ++ "\"" ++
        unlines [",", "    ].map \x7b |text| text.split(\"\\n\") \x7d.each do |lines|"] ++
        "      verify_contents(catalogue, " ++ singleQuoted title ++
        unlines [", lines)", "    end", "  end", ""] := by
  have hit : "  it 'is expected to contain expected content for file " =
      "  it " ++ ("'" ++ "is expected to contain expected content for file ") := by simp
  have hverify : "      verify_contents(catalogue, '" =
      "      verify_contents(catalogue, " ++ "'" := by simp
  have hlines : "', lines)" = "'" ++ ", lines)" := by simp
  have hclose : "\"," = "\"" ++ "," := by simp
  have hdo : "' do" = "'" ++ " do" := by simp
  simp only [block, ContentCheck.body, singleQuoted, escapeSingle_description, List.cons_append,
    List.nil_append, unlines_cons, unlines_nil]
  rw [hit, hverify, hlines, hclose, hdo]
  simp only [String.append_assoc, String.append_empty]

theorem unlines_block_digest (title : String) {hex : String} (h : IsPlain hex) :
    unlines ((digest hex).block (escapeSingle title)) =
      "  it " ++ singleQuoted ("is expected to contain expected content for file " ++ title) ++
        unlines [" do"] ++ "    content = catalogue.resource('file', " ++ singleQuoted title ++
        unlines [").send(:parameters)[:content]", "    md5 = Digest::MD5.hexdigest(content)"] ++
        "    expect(md5).to eq(" ++ singleQuoted hex ++ unlines [")", "  end", ""] := by
  have hit : "  it 'is expected to contain expected content for file " =
      "  it " ++ ("'" ++ "is expected to contain expected content for file ") := by simp
  have hfile : "    content = catalogue.resource('file', '" =
      "    content = catalogue.resource('file', " ++ "'" := by simp
  have hsend : "').send(:parameters)[:content]" = "'" ++ ").send(:parameters)[:content]" := by simp
  have hopen : "    expect(md5).to eq('" = "    expect(md5).to eq(" ++ "'" := by simp
  have hclose : "')" = "'" ++ ")" := by simp
  have hdo : "' do" = "'" ++ " do" := by simp
  simp only [block, ContentCheck.body, singleQuoted, escapeSingle_description,
    escapeSingle_of_isPlain h, List.cons_append, List.nil_append, unlines_cons, unlines_nil]
  rw [hit, hfile, hsend, hopen, hclose, hdo]
  simp only [String.append_assoc, String.append_empty]

end ContentCheck

namespace Spec

theorem unlines_header (s : Spec) :
    unlines s.header =
      unlines ["require 'spec_helper'"] ++
        (if s.params.isSome then unlines ["require 'json'"] else "") ++
        (if s.usesDigest then unlines ["require 'digest'"] else "") ++
        (unlines [""] ++ "describe ") ++ singleQuoted s.className ++ unlines [" do"] := by
  have hif (p : Prop) [Decidable p] (l : String) :
      unlines (if p then [l] else []) = if p then unlines [l] else "" := by
    split <;> rfl
  simp only [header, unlines_append, hif, unlines_cons, unlines_nil, String.append_assoc,
    String.append_empty]

/-- Every line of the parameters stands four columns deep. -/
theorem toList_unlines_paramsBlock (ms : Json.Members) :
    (unlines (paramsBlock (some ms))).toList =
      (unlines ["  let(:params) do"]).toList ++
        (List.replicate 4 ' ' ++ withMargin (List.replicate 4 ' ') (prettyHash ms).toList ++
          (unlines ["", "  end", ""]).toList) := by
  have hbreak : "\n    " = "\n" ++ "    " := by simp
  have hblock : unlines (paramsBlock (some ms)) = unlines ["  let(:params) do"] ++
      ("    " ++ replace "\n" "\n    " (prettyHash ms) ++ unlines ["", "  end", ""]) := by
    simp only [paramsBlock, unlines_cons, unlines_nil, String.append_assoc, String.append_empty,
      String.empty_append]
  rw [hblock, hbreak]
  simp only [String.toList_append, toList_replace_break]
  rfl

theorem unlines_compileBlock (className : String) :
    unlines (compileBlock className) =
      "  it " ++ singleQuoted "should write a compiled catalog" ++ unlines [" do"] ++
        unlines ["    is_expected.to compile.with_all_deps", "    File.write("] ++ "      " ++
        singleQuoted (compiledCatalogDir ++ "/" ++ catalogFileStem className ++ ".json") ++
        unlines [",", "      PSON.pretty_generate(catalogue)", "    )", "  end"] := by
  have hdescription : escapeSingle "should write a compiled catalog" =
      "should write a compiled catalog" := escapeSingle_of_isPlain (by decide +kernel)
  have hdir : escapeSingle compiledCatalogDir = compiledCatalogDir :=
    escapeSingle_of_isPlain (by decide +kernel)
  have hslash : escapeSingle "/" = "/" := escapeSingle_of_isPlain (by decide)
  have hsuffix : escapeSingle ".json" = ".json" := escapeSingle_of_isPlain (by decide +kernel)
  have hit : "  it 'should write a compiled catalog' do" =
      "  it " ++ ("'" ++ ("should write a compiled catalog" ++ ("'" ++ " do"))) := by simp
  have hopen : "      '" = "      " ++ "'" := by simp
  have hclose : ".json'," = ".json" ++ ("'" ++ ",") := by simp
  simp only [compileBlock, singleQuoted, escapeSingle_append, hdescription, hdir, hslash, hsuffix,
    unlines_cons, unlines_nil]
  rw [hit, hopen, hclose]
  simp only [String.append_assoc, String.append_empty]

theorem text_eq (s : Spec) :
    s.text = unlines s.header ++ unlines (paramsBlock s.params) ++
      String.join (s.examples.map fun e => unlines e.lines) ++
      unlines (if s.compiles then compileBlock s.className else []) ++
      unlines ["end"] := by
  simp only [text, lines, unlines_append, unlines_flatMap]

def blocks (o : Options) (rs : List Resource) : List Char :=
  rs.flatMap fun r => (unlines (Example.lenient o .standard r).lines).toList

def ending (compiles : Bool) (className : String) : List Char :=
  (unlines (if compiles then compileBlock className else [])).toList ++ (unlines ["end"]).toList

theorem ending_false (className : String) : ending false className = (unlines ["end"]).toList := rfl

theorem ending_true (className : String) :
    ending true className =
      "  it ".toList ++ ((singleQuoted "should write a compiled catalog").toList ++
        ((unlines [" do"]).toList ++
          ((unlines ["    is_expected.to compile.with_all_deps", "    File.write("]).toList ++
            ("      ".toList ++ ((singleQuoted
              (compiledCatalogDir ++ "/" ++ catalogFileStem className ++ ".json")).toList ++
              ((unlines [",", "      PSON.pretty_generate(catalogue)", "    )", "  end"]).toList ++
                (unlines ["end"]).toList)))))) := by
  rw [ending, if_pos rfl, unlines_compileBlock]
  simp only [String.toList_append, List.append_assoc]

theorem toList_text_lenient (o : Options) (root : RootClass) (rs : List Resource) :
    (lenient o .standard root rs).text.toList =
      (unlines (lenient o .standard root rs).header).toList ++
        ((unlines (paramsBlock root.params)).toList ++
          (blocks o rs ++ ending o.onlyInclude.isEmpty root.nameOrBlank)) := by
  have hblocks : (String.join ((lenient o .standard root rs).examples.map
      fun e => unlines e.lines)).toList = blocks o rs := by
    rw [blocks, String.toList_join]
    simp only [lenient, List.flatMap_map]
  rw [text_eq]
  simp only [String.toList_append, List.append_assoc, hblocks]
  rfl

end Spec

end CatalogRspec
