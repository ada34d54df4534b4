import CatalogRspec.Proofs.Generator.Outcome
import CatalogRspec.Proofs.Literal.PrettyReadBack
import CatalogRspec.Proofs.Spec.ExampleReadBack

namespace CatalogRspec

open Literal Text

namespace SpecReader

open Spec

theorem readHeader_append (s : Spec) (rest : List Char) :
    readHeader ((unlines s.header).toList ++ rest) = some (s.className, rest) := by
  have hjson (t : List Char) : expect (unlines ["require 'json'"])
      ((unlines ["require 'digest'"]).toList ++ t) = none := rfl
  have hjson' (t : List Char) : expect (unlines ["require 'json'"])
      ((unlines [""]).toList ++ t) = none := rfl
  have hdigest (t : List Char) : expect (unlines ["require 'digest'"])
      ((unlines [""]).toList ++ t) = none := rfl
  rw [unlines_header]
  cases s.params <;> cases s.usesDigest <;>
    simp only [Option.isSome_none, Option.isSome_some, if_true, if_false, Bool.false_eq_true,
      String.toList_append, String.toList_empty, List.nil_append, List.append_assoc, readHeader,
      expect_append, expect_append_append, hjson, hjson', hdigest, readQuoted_append,
      Option.getD_some, Option.getD_none, Option.bind_eq_bind, Option.bind_some] <;>
    rfl

theorem readParams_none {rest : List Char}
    (hrest : expect (unlines ["  let(:params) do"]) rest = none) :
    readParams ((unlines (paramsBlock none)).toList ++ rest) = some (none, rest) := by
  have hempty : (unlines (paramsBlock none)).toList ++ rest = rest := rfl
  rw [hempty, readParams, hrest]

theorem readParams_some (ms : Json.Members) (rest : List Char) :
    readParams ((unlines (paramsBlock (some ms))).toList ++ rest) =
      some (some (Datum.ofMembers .ofName ms), rest) := by
  have hdenotes : Denotes (List.replicate 4 ' ' ++
      withMargin (List.replicate 4 ' ') (prettyHash ms).toList)
      (.hash (Datum.ofMembers .ofName ms)) :=
    (denotes_pretty (blank_replicate 4) 0 (.object ms)).indent (blank_replicate 4)
  have hend : EndsWord ((unlines ["", "  end", ""]).toList ++ rest) := endsWord_cons rfl _
  rw [toList_unlines_paramsBlock, List.append_assoc, List.append_assoc, readParams, expect_append]
  simp only
  rw [List.length_append, hdenotes.readDatum_eq (Nat.le_add_right _ _) hend]
  simp only [expect_append]
  rfl

theorem readCheck_ending (compiles : Bool) (className : String) :
    readCheck (ending compiles className) = none := by
  cases compiles
  · rfl
  · rw [ending_true]
    exact readCheck_eq_none _ rfl rfl

theorem readExample_ending (compiles : Bool) (className : String) :
    readExample (ending compiles className) = none := by
  cases compiles
  · rfl
  · have hsubject : expect "is expected to contain " "should write a compiled catalog".toList =
        none := rfl
    rw [ending_true, readExample, readPlain, readDescription_append]
    simp only [Option.bind_eq_bind, Option.bind_some, hsubject, Option.bind_none]

/-- If the example that compiles the catalog is there, it is passed over; nothing is left but the
last line. -/
theorem skipCompiling_ending (compiles : Bool) (className : String) :
    (skipCompiling (ending compiles className)).getD (ending compiles className) =
      (unlines ["end"]).toList := by
  cases compiles
  · rfl
  · rw [ending_true, skipCompiling, readDescription_append]
    simp only [Option.bind_eq_bind, Option.bind_some, expect_append, readQuoted_append,
      Option.getD_some]

theorem readCheck_blocks (o : Options) {rs : List Resource} (h : ∀ r ∈ rs, r.HasPlainType)
    {rest : List Char} (hrest : readCheck rest = none) :
    readCheck (blocks o rs ++ rest) = none := by
  cases rs with
  | nil => exact hrest
  | cons r rs =>
    rw [blocks, List.flatMap_cons, Example.lines, unlines_append, String.toList_append,
      List.append_assoc, List.append_assoc]
    exact readCheck_block (e := Example.lenient o .standard r) (h r List.mem_cons_self) _

theorem readExamples_append (o : Options) {rs : List Resource} (h : ∀ r ∈ rs, r.HasPlainType)
    {rest : List Char} (hcheck : readCheck rest = none) (hrest : readExample rest = none)
    {fuel : Nat} (hfuel : rs.length < fuel) :
    readExamples fuel (blocks o rs ++ rest) = some (rs.map (Resource.evidence o), rest) := by
  induction rs generalizing fuel with
  | nil =>
    obtain ⟨fuel, rfl⟩ := Nat.exists_eq_add_one_of_ne_zero (Nat.ne_zero_of_lt hfuel)
    rw [blocks, List.flatMap_nil, List.nil_append, readExamples, hrest]
    rfl
  | cons r rs ih =>
    obtain ⟨fuel, rfl⟩ := Nat.exists_eq_add_one_of_ne_zero (Nat.ne_zero_of_lt hfuel)
    have hrs : ∀ r ∈ rs, r.HasPlainType := fun q hq => h q (List.mem_cons_of_mem r hq)
    have hread := readExample_append o (h r List.mem_cons_self) (readCheck_blocks o hrs hcheck)
    have hmore := ih hrs (show rs.length < fuel by simpa using hfuel)
    rw [blocks, List.flatMap_cons, List.append_assoc, ← blocks, readExamples, hread]
    simp only [hmore]
    rfl

theorem length_le_length_blocks (o : Options) (rs : List Resource) :
    rs.length ≤ (blocks o rs).length := by
  induction rs with
  | nil => exact Nat.zero_le _
  | cons r rs ih =>
    have hpos := length_le_length_unlines (Example.lenient o .standard r).lines
    have hlines : 0 < (Example.lenient o .standard r).lines.length := by
      simp [Example.lines, Example.block]
    rw [blocks, List.flatMap_cons, ← blocks, List.length_append, List.length_cons]
    omega

end SpecReader

/-- What a spec tells about the inputs that it was made from. -/
def SpecReading.ofInputs (o : Options) (root : RootClass) (rs : List Resource) : SpecReading :=
  ⟨root.name.getD "", root.params.map (Datum.ofMembers .ofName), rs.map (Resource.evidence o)⟩

namespace SpecReader

open Spec

theorem expect_params_blocks (o : Options) {rs : List Resource} (h : ∀ r ∈ rs, r.HasPlainType)
    (compiles : Bool) (className : String) :
    expect (unlines ["  let(:params) do"]) (blocks o rs ++ ending compiles className) = none := by
  cases rs with
  | nil =>
    cases compiles
    · rfl
    · rw [blocks, List.flatMap_nil, List.nil_append, ending_true]
      rfl
  | cons r rs =>
    have hblock := Example.unlines_block (e := Example.lenient o .standard r)
      (h r List.mem_cons_self)
    rw [blocks, List.flatMap_cons, Example.lines, unlines_append, hblock]
    simp only [String.toList_append, List.append_assoc]
    rfl

theorem read_text_lenient (o : Options) (root : RootClass) {rs : List Resource}
    (h : ∀ r ∈ rs, r.HasPlainType) :
    read (lenient o .standard root rs).text = some (.ofInputs o root rs) := by
  rw [read, toList_text_lenient, readHeader_append]
  generalize o.onlyInclude.isEmpty = compiles
  have hparams : readParams ((unlines (paramsBlock root.params)).toList ++
      (blocks o rs ++ ending compiles root.nameOrBlank)) =
      some (root.params.map (Datum.ofMembers .ofName),
        blocks o rs ++ ending compiles root.nameOrBlank) := by
    cases root.params with
    | none => exact readParams_none (expect_params_blocks o h compiles _)
    | some ms => exact readParams_some ms _
  -- No block is empty, so the length of the text is fuel enough.
  have hlength : rs.length < (blocks o rs ++ ending compiles root.nameOrBlank).length := by
    have hblocks := length_le_length_blocks o rs
    have hend := length_le_length_unlines ["end"]
    simp only [ending, List.length_append, List.length_cons, List.length_nil] at *
    omega
  have hexamples := readExamples_append o h (readCheck_ending compiles root.nameOrBlank)
    (readExample_ending compiles root.nameOrBlank) hlength
  simp only [Option.bind_eq_bind, Option.bind_some, hparams, hexamples, skipCompiling_ending,
    if_true]
  rfl

end SpecReader

/-- Whatever the class, the parameters, the titles, the values and the content look like, a reader
that sees only the text finds what the spec was made from, so that inputs with one text agree. -/
theorem Generator.read_emit (o : Options) (choice : ClassChoice) (root : RootClass)
    (rs : List Resource) (text : String) (hrs : ∀ r ∈ rs, r.HasPlainType)
    (h : (Generator.emitBounded ⟨o, .standard, choice⟩ root rs).outcome = .ok text) :
    SpecReader.read text = some (.ofInputs o root rs) ∧
    ∀ root' rs', (∀ r ∈ rs', Resource.HasPlainType r) →
      (Generator.emitBounded ⟨o, .standard, choice⟩ root' rs').outcome = .ok text →
      SpecReading.ofInputs o root rs = .ofInputs o root' rs' := by
  have hread (root : RootClass) (rs : List Resource) (hrs : ∀ r ∈ rs, r.HasPlainType)
      (h : (Generator.emitBounded ⟨o, .standard, choice⟩ root rs).outcome = .ok text) :
      SpecReader.read text = some (.ofInputs o root rs) := by
    rw [eq_text_of_outcome_emit (emit_of_emitBounded _ h).2]
    exact SpecReader.read_text_lenient o root hrs
  refine ⟨hread root rs hrs h, fun root' rs' hrs' h' => ?_⟩
  have hsame := hread root' rs' hrs' h'
  rw [hread root rs hrs h] at hsame
  exact Option.some.inj hsame

/-- A resource whose example has the first line of a check of content; no class and a class without
a name make the same spec. -/
theorem Generator.read_emit_lookalike :
    let o : Options := { onlyInclude := ["Expected"] }
    let lookalike : Resource := ⟨"Expected", "content for file x", [("it's", .string "  end")]⟩
    let text := "require 'spec_helper'\n\ndescribe '' do\n" ++
      "  it 'is expected to contain expected content for file x' do\n" ++
      "    is_expected.to contain_expected('content for file x').with(\x7b\n" ++
      "      'it\\'s' => '  end',\n    \x7d)\n  end\n\nend\n"
    SpecReader.read text =
        some ⟨"", none,
          [⟨"expected", "content for file x", [⟨"it's", "'  end'", .string "  end"⟩], none⟩]⟩ ∧
      SpecReading.ofInputs o ⟨none, none⟩ [lookalike] =
        .ofInputs o ⟨some "", none⟩ [lookalike] := by
  intro o lookalike text
  have hplain : ∀ r ∈ [lookalike], r.HasPlainType := by decide
  have hemit (root : RootClass) (hparams : root.params = none)
      (h : (Spec.lenient o .standard root [lookalike]).text = text) :
      (Generator.emitBounded ⟨o, .standard, .inferred⟩ root [lookalike]).outcome = .ok text := by
    have hnarrow : ¬root.HasWideKey := by
      rintro ⟨params, hsome, -⟩
      cases hparams.symm.trans hsome
    rw [emitBounded_of_not_wide _ _ hnarrow, Traced.outcome_mapError, outcome_emit, ← h]
    rfl
  have hnone := hemit ⟨none, none⟩ rfl (by decide +kernel)
  have hsome := hemit ⟨some "", none⟩ rfl (by decide +kernel)
  have hevidence : lookalike.evidence o =
      ⟨"expected", "content for file x", [⟨"it's", "'  end'", .string "  end"⟩], none⟩ := by
    have htype : lookalike.type.toLower = "expected" := by decide +kernel
    have hliteral : Json.Value.comparedLiteral (.string "  end") = "'  end'" := by decide +kernel
    have hcompared : lookalike.comparedParameters = lookalike.parameters := rfl
    rw [Resource.evidence, htype, hcompared, ← hliteral]
    rfl
  obtain ⟨hread, hsame⟩ := read_emit o .inferred ⟨none, none⟩ [lookalike] text hplain hnone
  refine ⟨?_, hsame ⟨some "", none⟩ [lookalike] hplain hsome⟩
  rw [hread, SpecReading.ofInputs, List.map_singleton, hevidence]
  rfl

end CatalogRspec
