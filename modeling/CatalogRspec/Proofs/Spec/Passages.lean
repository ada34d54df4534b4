import CatalogRspec.Proofs.Spec.Layout

namespace CatalogRspec

open Literal Text

inductive Passage where
  /-- Reads the same however content is checked. -/
  | fixed (text : String)
  /-- The line that loads the digest library, if digests are used. -/
  | digestLibrary
  /-- What stands between the first line of a check and its end. -/
  | checkBody (r : Resource) (content : String)

namespace Passage

/-- A check by digest holds the digest of the bytes of the content, as lower-case hexadecimal, and any
other one the content with its escapes, in the first column. -/
def text (md5sums : Bool) (rules : EscapeRules) : Passage → String
  | .fixed text => text
  | .digestLibrary => if md5sums then "require 'digest'\n" else ""
  | .checkBody r content =>
    let title := escapeSingle r.title
    if md5sums then
      let digest := (Md5.digest (utf8 content)).flatMap fun b => lowerHex 2 b.toNat
      unlines [
        "    content = catalogue.resource('file', '" ++ title ++ "').send(:parameters)[:content]",
        "    md5 = Digest::MD5.hexdigest(content)",
        "    expect(md5).to eq('" ++ String.ofList digest ++ "')"]
    else
      unlines [
        "    [",
        "\"" ++ rules.apply content ++ "\",",
        "    ].map \x7b |text| text.split(\"\\n\") \x7d.each do |lines|",
        "      verify_contents(catalogue, '" ++ title ++ "', lines)",
        "    end"]

def joined (md5sums : Bool) (rules : EscapeRules) (ps : List Passage) : String :=
  String.join (ps.map (text md5sums rules))

def check? : Passage → Option (Resource × String)
  | .checkBody r content => some (r, content)
  | _ => none

theorem joined_cons (md5sums : Bool) (rules : EscapeRules) (p : Passage) (ps : List Passage) :
    joined md5sums rules (p :: ps) = p.text md5sums rules ++ joined md5sums rules ps := by
  simp [joined]

theorem joined_append (md5sums : Bool) (rules : EscapeRules) (ps qs : List Passage) :
    joined md5sums rules (ps ++ qs) = joined md5sums rules ps ++ joined md5sums rules qs := by
  simp [joined]

theorem joined_flatMap {α : Type} (md5sums : Bool) (rules : EscapeRules) (f : α → List Passage)
    (xs : List α) : joined md5sums rules (xs.flatMap f) =
      String.join (xs.map fun x => joined md5sums rules (f x)) := by
  induction xs with
  | nil => rfl
  | cons x xs ih => rw [List.flatMap_cons, joined_append, ih, List.map_cons, String.join_cons]

theorem joined_digests (rules rules' : EscapeRules) (ps : List Passage) :
    joined true rules ps = joined true rules' ps := by
  have htext : text true rules = text true rules' := by
    funext p
    cases p <;> rfl
  rw [joined, joined, htext]

end Passage

theorem unlines_body_ofText (o : Options) (rules : EscapeRules) (r : Resource) (content : String) :
    unlines ((ContentCheck.ofText o rules content).body (escapeSingle r.title)) =
      (Passage.checkBody r content).text o.md5sums rules := by
  unfold ContentCheck.ofText Passage.text
  cases o.md5sums <;> rfl

namespace Resource

def checkedContent? (r : Resource) : Option String :=
  match r.content with
  | .text s => some s
  | _ => none

def passages (r : Resource) : List Passage :=
  .fixed (unlines (Example.block ⟨r.type, r.title, r.expectations, none⟩)) ::
    match r.checkedContent? with
    | none => []
    | some content => [
        .fixed (unlines ["  it 'is expected to contain expected content for file " ++
          escapeSingle r.title ++ "' do"]),
        .checkBody r content,
        .fixed (unlines ["  end", ""])]

theorem joined_passages (o : Options) (rules : EscapeRules) (r : Resource) :
    Passage.joined o.md5sums rules r.passages = unlines (Example.lenient o rules r).lines := by
  rw [Example.lines, unlines_append]
  unfold passages checkedContent? Example.lenient check?
  rw [Passage.joined_cons]
  congr 1
  cases r.content with
  | text s =>
    simp only [ContentCheck.block, unlines_append, unlines_body_ofText]
    simp [Passage.joined, Passage.text, String.append_assoc]
  | unchecked => rfl
  | unusable v => rfl

theorem filterMap_check?_passages (r : Resource) :
    r.passages.filterMap Passage.check? = (r.checkedContent?.map (r, ·)).toList := by
  unfold passages
  cases r.checkedContent? <;> rfl

end Resource

namespace Spec

def passages (compiles : Bool) (root : RootClass) (rs : List Resource) : List Passage :=
  [.fixed (unlines (["require 'spec_helper'"] ++
      if root.params.isSome then ["require 'json'"] else [])),
    .digestLibrary,
    .fixed (unlines ["", "describe " ++ singleQuoted root.nameOrBlank ++ " do"]),
    .fixed (unlines (paramsBlock root.params))] ++
  rs.flatMap Resource.passages ++
  [.fixed (unlines (if compiles then compileBlock root.nameOrBlank else [])),
    .fixed (unlines ["end"])]

theorem text_eq_joined (o : Options) (rules : EscapeRules) (root : RootClass)
    (rs : List Resource) : (lenient o rules root rs).text =
      Passage.joined o.md5sums rules (passages o.onlyInclude.isEmpty root rs) := by
  have hexamples : (rs.map (Example.lenient o rules)).map (fun e => unlines e.lines) =
      rs.map fun r => Passage.joined o.md5sums rules r.passages := by
    simp only [List.map_map, Function.comp_def, Resource.joined_passages]
  have hheader : (lenient o rules root rs).header = ["require 'spec_helper'"] ++
      (if root.params.isSome then ["require 'json'"] else []) ++
      (if o.md5sums then ["require 'digest'"] else []) ++
      ["", "describe " ++ singleQuoted root.nameOrBlank ++ " do"] := rfl
  have hlibrary : unlines (if o.md5sums then ["require 'digest'"] else []) =
      if o.md5sums then "require 'digest'\n" else "" := by
    split <;> rfl
  rw [text_eq, hheader]
  unfold passages
  rw [Passage.joined_append, Passage.joined_append, Passage.joined_flatMap]
  simp only [lenient, hexamples, unlines_append, hlibrary]
  simp [Passage.joined, Passage.text, String.append_assoc]

/-- There is one check for each resource with content that can be checked, in their order. -/
theorem filterMap_check?_passages (compiles : Bool) (root : RootClass) (rs : List Resource) :
    (passages compiles root rs).filterMap Passage.check? =
      rs.filterMap fun r => r.checkedContent?.map (r, ·) := by
  simp only [passages, List.filterMap_append, List.filterMap_flatMap,
    Resource.filterMap_check?_passages, ← List.filterMap_eq_flatMap_toList]
  simp [List.filterMap_cons, Passage.check?]

end Spec

end CatalogRspec
