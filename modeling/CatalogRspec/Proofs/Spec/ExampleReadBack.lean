import CatalogRspec.Proofs.Digest.HexText
import CatalogRspec.Proofs.Json.Members
import CatalogRspec.Proofs.Literal.ReadBack
import CatalogRspec.Proofs.Spec.Layout
import CatalogRspec.Proofs.Spec.Offence
import CatalogRspec.Proofs.Spec.Reader

namespace CatalogRspec

open Literal Text

namespace Json.Value

/-- What a parameter is compared with. Scalars are compared as text. -/
def compared : Value → Datum
  | .bool b => .string (toString b)
  | .number n => .string n.text
  | v => .ofValue .string v

def comparedLiteral : Value → String
  | .string s => singleQuoted s
  | .bool b => singleQuoted (toString b)
  | .number n => singleQuoted n.text
  | v => inspect v

theorem expectedLiteral?_eq (v : Value) :
    expectedLiteral? v = if v.isNull then none else some v.comparedLiteral := by
  cases v with
  | bool b => cases b <;> rfl
  | _ => rfl

end Json.Value

def Comparison.ofMember (m : String × Json.Value) : Comparison :=
  ⟨m.1, m.2.comparedLiteral, m.2.compared⟩

namespace Resource

/-- The parameters that are not null, without the content of a file. -/
def comparedParameters (r : Resource) : Json.Members :=
  r.parameters.filter fun m => !m.2.isNull && !(r.type == "File" && m.1 == "content")

/-- The text of a plain file that is to be there. -/
def heldText? (r : Resource) : Option String :=
  match r.parameters.lookup "ensure", r.parameters.lookup "content" with
  | none, some (.string s) => if r.type = "File" then some s else none
  | some (.string ensure), some (.string s) =>
    if r.type = "File" ∧ (ensure = "file" ∨ ensure = "present") then some s else none
  | _, _ => none

/-- What an example has to tell about a resource, and the check of its content if it has one. -/
def evidence (o : Options) (r : Resource) : ExampleReading where
  type := r.type.toLower
  title := r.title
  expected := r.comparedParameters.map .ofMember
  check := r.heldText?.map fun s =>
    if o.md5sums then
      .digest (String.ofList ((Md5.digest (utf8 s)).flatMap fun b => lowerHex 2 b.toNat))
    else .lines s

theorem isNull_of_mem_comparedParameters (r : Resource) :
    ∀ m ∈ r.comparedParameters, m.2.isNull = false := by
  intro m hm
  have hkept := (List.mem_filter.mp hm).2
  rw [Bool.and_eq_true, Bool.not_eq_true'] at hkept
  exact hkept.1

theorem expectations_eq (r : Resource) :
    r.expectations = r.comparedParameters.map fun m => (m.1, m.2.comparedLiteral) := by
  unfold expectations comparedParameters
  rw [← List.filterMap_eq_map, List.filterMap_filter]
  refine List.filterMap_congr fun m _ => ?_
  obtain ⟨name, v⟩ := m
  simp only [Json.Value.expectedLiteral?_eq]
  show (if !(r.type == "File" && name == "content") then _ else _) = _
  cases v.isNull <;> cases r.type == "File" && name == "content" <;> rfl

theorem heldText?_eq_some_iff (r : Resource) (s : String) :
    r.heldText? = some s ↔ r.HoldsText s := by
  unfold heldText? HoldsText IsPlainFile
  split
  next hensure hcontent => simp [hensure, hcontent]
  next ensure text hensure hcontent => simp [hensure, hcontent, and_assoc]
  next hother hpresent =>
    -- What is left out is that the content or the state to be ensured is no text.
    refine iff_of_false nofun ?_
    rintro ⟨⟨-, hensure | hensure | hensure⟩, hcontent⟩
    · exact hother _ hensure hcontent
    · exact hpresent _ _ hensure hcontent
    · exact hpresent _ _ hensure hcontent

theorem heldText?_eq (r : Resource) : r.heldText? = r.checkedContent? :=
  Option.ext fun s => by rw [heldText?_eq_some_iff, checkedContent?_eq_some_iff]

end Resource

namespace SpecReader

theorem expect_append (t : String) (s : List Char) : expect t (t.toList ++ s) = some s :=
  List.dropPrefix?_append_of_beq s (by simp)

theorem expect_append_append (t u : String) (s : List Char) :
    expect (t ++ u) (t.toList ++ (u.toList ++ s)) = some s := by
  rw [← List.append_assoc, ← String.toList_append, expect_append]

theorem readQuoted_append (t : String) (rest : List Char) :
    readQuoted ((singleQuoted t).toList ++ rest) = some (t, rest) := by
  have hquote (s : List Char) : '\'' :: s = "'".toList ++ s := rfl
  rw [toList_singleQuoted_append, hquote, readQuoted, expect_append]
  simp only [Option.bind_eq_bind, Option.bind_some]
  rw [readSingle_backslashed, Option.map_some, mapRead, String.ofList_toList]

theorem readDescription_append (t : String) (rest : List Char) :
    readDescription
        ("  it ".toList ++ ((singleQuoted t).toList ++ ((unlines [" do"]).toList ++ rest))) =
      some (t, rest) := by
  simp only [readDescription, expect_append, readQuoted_append, Option.bind_eq_bind,
    Option.bind_some]
  rfl

theorem readLiteral_append {v : Json.Value} (h : v.isNull = false) {rest : List Char}
    (hrest : EndsWord rest) :
    readLiteral (v.comparedLiteral.toList ++ rest) = some (v.compared, rest) := by
  have hquoted (t : String) :
      readLiteral ((singleQuoted t).toList ++ rest) = some (.string t, rest) := by
    rw [toList_singleQuoted_append, readLiteral, readSingle_backslashed, Option.map_some, mapRead,
      Function.comp_apply, String.ofList_toList]
  have hinspect (w : Json.Value) (c : Char) (hc : c ≠ '\'')
      (hw : (inspect w).toList.head? = some c) :
      readLiteral ((inspect w).toList ++ rest) = some (.ofValue .string w, rest) := by
    -- A container begins with its bracket, and so not like a string in single quotes.
    have hread := (denotes_inspect w).readDatum_eq (Nat.le_add_right _ rest.length) hrest
    obtain ⟨s, hs⟩ := List.head?_eq_some_iff.mp hw
    rw [hs] at hread ⊢
    rw [List.cons_append, readLiteral]
    · rw [← List.cons_append, List.length_append, hread]
    · exact fun t e => hc (List.cons.inj e).1
  cases v with
  | null => cases h
  | bool b => exact hquoted _
  | number n => exact hquoted _
  | string s => exact hquoted s
  | array items => exact hinspect _ '[' (by decide) (by rw [toList_inspect_array]; rfl)
  | object ms => exact hinspect _ '{' (by decide) (by rw [toList_inspect_object]; rfl)

theorem readSource_append {v : Json.Value} (h : v.isNull = false) {rest : List Char}
    (hrest : EndsWord rest) :
    readSource (v.comparedLiteral.toList ++ rest) =
      some ((v.comparedLiteral, v.compared), rest) := by
  rw [readSource, readLiteral_append h hrest]
  simp

theorem readExpected_append {ms : Json.Members} (h : ∀ m ∈ ms, m.2.isNull = false)
    {rest : List Char} (hrest : expect "      " rest = none) {fuel : Nat} (hfuel : ms.length < fuel) :
    readExpected fuel ((unlines ((ms.map fun m => (m.1, m.2.comparedLiteral)).map
        Example.expectedLine)).toList ++ rest) =
      some (ms.map .ofMember, rest) := by
  induction ms generalizing fuel with
  | nil =>
    obtain ⟨fuel, rfl⟩ := Nat.exists_eq_add_one_of_ne_zero (Nat.ne_zero_of_lt hfuel)
    have hempty : (unlines []).toList ++ rest = rest := rfl
    rw [List.map_nil, List.map_nil, hempty, readExpected, hrest]
    rfl
  | cons m ms ih =>
    obtain ⟨fuel, rfl⟩ := Nat.exists_eq_add_one_of_ne_zero (Nat.ne_zero_of_lt hfuel)
    have hm := h m List.mem_cons_self
    have hrec := ih (fun n hn => h n (List.mem_cons_of_mem m hn))
      (show ms.length < fuel by simpa using hfuel)
    have hcomma (s : List Char) : EndsWord ((unlines [","]).toList ++ s) := endsWord_cons rfl _
    rw [List.map_cons, Example.unlines_expectedLines]
    simp only [String.toList_append, List.append_assoc]
    simp only [readExpected, expect_append, readQuoted_append, readSource_append hm (hcomma _),
      Option.bind_eq_bind, Option.bind_some, hrec]
    rfl

theorem length_le_length_unlines (lines : List String) :
    lines.length ≤ (unlines lines).toList.length := by
  induction lines with
  | nil => exact Nat.zero_le _
  | cons l lines ih =>
    rw [unlines_cons, String.toList_append, String.toList_append, List.length_append,
      List.length_append, List.length_cons]
    have hbreak : "\n".toList.length = 1 := rfl
    omega

theorem dropWhile_flatType {type : String} (h : ∀ c ∈ type.toList, isTypeChar c = true)
    (rest : List Char) :
    ((flatType type).toList ++ ("(".toList ++ rest)).dropWhile (· != '(') = "(".toList ++ rest := by
  rw [List.dropWhile_append_of_pos]
  · rfl
  · intro c hc
    have hne : c ≠ '(' := by
      rintro rfl
      exact absurd (isTypeChar_flatType h _ hc) (by decide)
    simpa using hne

theorem takeWhile_lowercase {type : String} (h : ∀ c ∈ type.toList, isTypeChar c = true)
    (rest : List Char) :
    ((Unicode.lowercase type).toList ++ (" ".toList ++ rest)).takeWhile (· != ' ') =
      (Unicode.lowercase type).toList := by
  rw [List.takeWhile_append_of_pos]
  · exact List.append_nil _
  · intro c hc
    have hne : c ≠ ' ' := by
      rintro rfl
      exact absurd (isTypeChar_lowercase h _ hc) (by decide)
    simpa using hne

theorem readPlain_append {e : Example} (ht : ∀ c ∈ e.type.toList, isTypeChar c = true)
    {ms : Json.Members} (hms : ∀ m ∈ ms, m.2.isNull = false)
    (he : e.expected = ms.map fun m => (m.1, m.2.comparedLiteral)) (rest : List Char) :
    readPlain ((unlines e.block).toList ++ rest) =
      some (⟨e.type.toLower, e.title, ms.map .ofMember, none⟩, rest) := by
  have hclose : expect "      " ((unlines ["    \x7d)", "  end", ""]).toList ++ rest) = none := rfl
  have hlength : ms.length <
      ((unlines (e.expected.map Example.expectedLine)).toList ++
        ((unlines ["    \x7d)", "  end", ""]).toList ++ rest)).length := by
    have hlines := length_le_length_unlines (e.expected.map Example.expectedLine)
    have hend := length_le_length_unlines ["    \x7d)", "  end", ""]
    simp only [he, List.length_append, List.length_map, List.length_cons, List.length_nil] at *
    omega
  have hexpected := readExpected_append hms hclose hlength
  rw [← he] at hexpected
  -- The reader meets the literals one after the other, each with the rest of the text behind it.
  rw [Example.unlines_block ht]
  simp only [String.toList_append, List.append_assoc]
  simp only [readPlain, readDescription_append, String.toList_append, List.append_assoc,
    expect_append, dropWhile_flatType ht, takeWhile_lowercase ht, readQuoted_append, hexpected,
    Option.bind_eq_bind, Option.bind_some, String.ofList_toList]
  rw [lowercase_of_isTypeChar ht]
  rfl

theorem readLines_append (title content : String) (rest : List Char) :
    readLines ((EscapeRules.standard.apply content).toList ++ ("\"".toList ++
        ((unlines [",", "    ].map \x7b |text| text.split(\"\\n\") \x7d.each do |lines|"]).toList ++
          ("      verify_contents(catalogue, ".toList ++ ((singleQuoted title).toList ++
            ((unlines [", lines)", "    end", "  end", ""]).toList ++ rest)))))) =
      some (.lines content, rest) := by
  have hbody (s : List Char) : readDouble .spelt ((EscapeRules.standard.apply content).toList ++
      ("\"".toList ++ s)) = some (content.toList, s) := by
    rw [EscapeRules.toList_apply_standard]
    exact readDouble_standard content.toList s
  simp only [readLines, hbody, expect_append, readQuoted_append, Option.bind_eq_bind,
    Option.bind_some, String.ofList_toList]
  rfl

theorem readDigest_append (title hex : String) (rest : List Char) :
    readDigest ((singleQuoted title).toList ++ ((unlines [").send(:parameters)[:content]",
        "    md5 = Digest::MD5.hexdigest(content)"]).toList ++
          ("    expect(md5).to eq(".toList ++ ((singleQuoted hex).toList ++
            ((unlines [")", "  end", ""]).toList ++ rest))))) =
      some (.digest hex, rest) := by
  simp only [readDigest, expect_append, readQuoted_append, Option.bind_eq_bind, Option.bind_some]
  rfl

theorem readCheck_append (o : Options) (title content : String) (rest : List Char) :
    readCheck ((unlines ((ContentCheck.ofText o .standard content).block
        (escapeSingle title))).toList ++ rest) =
      some (if o.md5sums then .digest (Md5.hexDigest content) else .lines content, rest) := by
  unfold ContentCheck.ofText
  cases o.md5sums
  · simp only [Bool.false_eq_true, if_false]
    rw [ContentCheck.unlines_block_lines]
    simp only [String.toList_append, List.append_assoc]
    rw [readCheck, readDescription_append]
    simp only [Option.bind_eq_bind, Option.bind_some, expect_append_append, readLines_append]
  · simp only [if_true]
    rw [ContentCheck.unlines_block_digest title (Md5.isPlain_hexDigest content)]
    have hlines (s : List Char) : expect (unlines ["    ["] ++ "\"")
        ("    content = catalogue.resource('file', ".toList ++ s) = none := rfl
    simp only [String.toList_append, List.append_assoc]
    rw [readCheck, readDescription_append]
    simp only [Option.bind_eq_bind, Option.bind_some, hlines, expect_append, readDigest_append]

/-- A first line that belongs to no check of content, for the line behind it is another. -/
theorem readCheck_eq_none (t : String) {s : List Char}
    (hlines : expect (unlines ["    ["] ++ "\"") s = none)
    (hdigest : expect "    content = catalogue.resource('file', " s = none) :
    readCheck ("  it ".toList ++ ((singleQuoted t).toList ++ ((unlines [" do"]).toList ++ s))) =
      none := by
  rw [readCheck, readDescription_append]
  simp only [Option.bind_eq_bind, Option.bind_some, hlines, hdigest]

theorem readCheck_block {e : Example} (ht : ∀ c ∈ e.type.toList, isTypeChar c = true)
    (rest : List Char) : readCheck ((unlines e.block).toList ++ rest) = none := by
  rw [Example.unlines_block ht]
  simp only [String.toList_append, List.append_assoc]
  exact readCheck_eq_none _ rfl rfl

theorem readExample_append (o : Options) {r : Resource} (ht : r.HasPlainType) {rest : List Char}
    (hrest : readCheck rest = none) :
    readExample ((unlines (Example.lenient o .standard r).lines).toList ++ rest) =
      some (r.evidence o, rest) := by
  have hplain (s : List Char) :
      readPlain ((unlines (Example.lenient o .standard r).block).toList ++ s) =
        some (⟨r.type.toLower, r.title, r.comparedParameters.map .ofMember, none⟩, s) :=
    readPlain_append (e := Example.lenient o .standard r) ht r.isNull_of_mem_comparedParameters
      r.expectations_eq s
  rw [Example.lines, unlines_append, String.toList_append, List.append_assoc, readExample, hplain]
  simp only [Option.bind_eq_bind, Option.bind_some, Example.lenient, Resource.check?,
    Resource.evidence, Resource.heldText?_eq, Resource.checkedContent?]
  -- Without a check the reader looks at what follows, and that is no check of this resource.
  cases r.content with
  | text s =>
    simp only [readCheck_append]
    rfl
  | unchecked =>
    simp only [unlines_nil, String.toList_empty, List.nil_append, hrest]
    rfl
  | unusable v =>
    simp only [unlines_nil, String.toList_empty, List.nil_append, hrest]
    rfl

end SpecReader

end CatalogRspec
