import CatalogRspec.Proofs.Digest.HexText
import CatalogRspec.Proofs.Generator.Outcome
import CatalogRspec.Proofs.Spec.Erasure
import CatalogRspec.Proofs.Spec.Layout

namespace CatalogRspec

open Json Literal Text

theorem alike_flatType {type : String} (h : ∀ c ∈ type.toList, isTypeChar c = true) :
    Alike (flatType type).toList (flatType type).toList := by
  refine alike_of_no_quote fun c hc => ?_
  have hchar := isTypeChar_flatType h c hc
  constructor <;> rintro rfl <;> exact absurd hchar (by decide)

namespace Example

theorem expectations_cons (type title name : String) (v : Value) (ms : Members) :
    Resource.expectations ⟨type, title, (name, v) :: ms⟩ =
      (if Resource.isExpected ⟨type, title, ms⟩ name then
        (expectedLiteral? v).toList.map (name, ·) else []) ++
        Resource.expectations ⟨type, title, ms⟩ := by
  have hname : Resource.isExpected ⟨type, title, (name, v) :: ms⟩ name =
      Resource.isExpected ⟨type, title, ms⟩ name := rfl
  rw [Resource.expectations, List.filterMap_cons]
  simp only [hname]
  cases Resource.isExpected ⟨type, title, ms⟩ name
  · rfl
  · cases expectedLiteral? v <;> rfl

theorem alike_expectedLine (name name' : String) {l l' : String} (h : Alike l.toList l'.toList) :
    Alike (unlines [expectedLine (name, l)]).toList
      (unlines [expectedLine (name', l')]).toList := by
  have hline (name l : String) : unlines [expectedLine (name, l)] =
      "      " ++ singleQuoted name ++ " => " ++ l ++ unlines [","] ++ unlines [] :=
    unlines_expectedLines (name, l) []
  rw [hline, hline]
  simp only [String.toList_append, List.append_assoc]
  refine .fixed_append rfl ((alike_singleQuoted name name').append ?_)
  exact .fixed_append rfl (h.append (alike_fixed rfl))

theorem alike_expectedLines (type title : String) (ms : Members) :
    Alike (unlines ((Resource.expectations ⟨type, title, ms⟩).map expectedLine)).toList
      (unlines ((Resource.expectations ⟨type, "", Resource.eraseParameters type ms⟩).map
        expectedLine)).toList := by
  induction ms with
  | nil => exact alike_fixed rfl
  | cons m ms ih =>
    obtain ⟨name, v⟩ := m
    have hcons : Resource.eraseParameters type ((name, v) :: ms) =
        (Resource.eraseName type name, Resource.eraseValue type name v) ::
          Resource.eraseParameters type ms := rfl
    rw [hcons, expectations_cons, expectations_cons,
      Resource.isExpected_eraseName type title "" ms, List.map_append, List.map_append,
      unlines_append, unlines_append, String.toList_append, String.toList_append]
    refine Alike.append ?_ ih
    -- What remains is one line or none, and it is none on both sides or on neither.
    cases Resource.isExpected ⟨type, title, ms⟩ name
    · exact alike_fixed rfl
    · simp only [if_true]
      rcases alike_expectedLiteral?_eraseValue type name v with ⟨hv, hv'⟩ | ⟨l, l', hv, hv', hl⟩
      · rw [hv, hv']
        exact alike_fixed rfl
      · rw [hv, hv']
        exact alike_expectedLine name _ hl

theorem alike_block (o : Options) {r : Resource} (h : r.HasPlainType) :
    Alike (unlines (lenient o .standard r).block).toList
      (unlines (lenient o .standard r.erase).block).toList := by
  rw [unlines_block (e := lenient o .standard r) h,
    unlines_block (e := lenient o .standard r.erase) h]
  simp only [String.toList_append, List.append_assoc]
  refine .fixed_append rfl ((alike_singleQuoted _ _).append ?_)
  refine .fixed_append rfl (.fixed_append rfl ((alike_flatType h).append ?_))
  refine .fixed_append rfl ((alike_singleQuoted _ _).append (.fixed_append rfl ?_))
  exact (alike_expectedLines r.type r.title r.parameters).append (alike_fixed rfl)

end Example

namespace ContentCheck

theorem alike_block (o : Options) (title s : String) :
    Alike (unlines ((ofText o .standard s).block (escapeSingle title))).toList
      (unlines ((ofText o .standard "").block (escapeSingle ""))).toList := by
  unfold ofText
  cases o.md5sums
  · simp only [Bool.false_eq_true, if_false]
    rw [unlines_block_lines, unlines_block_lines]
    simp only [String.toList_append, List.append_assoc]
    refine .fixed_append rfl ((alike_singleQuoted _ _).append ?_)
    refine .fixed_append rfl (.fixed_append rfl (alike_content_append s "" ?_))
    refine .fixed_append (by decide +kernel) (.fixed_append (by decide +kernel) ?_)
    exact (alike_singleQuoted _ _).append (alike_fixed (by decide +kernel))
  · simp only [if_true]
    rw [unlines_block_digest title (Md5.isPlain_hexDigest s),
      unlines_block_digest "" (Md5.isPlain_hexDigest "")]
    simp only [String.toList_append, List.append_assoc]
    refine .fixed_append rfl ((alike_singleQuoted _ _).append ?_)
    refine .fixed_append rfl (.fixed_append (by decide +kernel) ?_)
    refine (alike_singleQuoted _ _).append (.fixed_append (by decide +kernel) ?_)
    refine .fixed_append (by decide +kernel) ((alike_singleQuoted _ _).append ?_)
    exact alike_fixed (by decide +kernel)

end ContentCheck

theorem Example.alike_lines (o : Options) {r : Resource} (h : r.HasPlainType) :
    Alike (unlines (lenient o .standard r).lines).toList
      (unlines (lenient o .standard r.erase).lines).toList := by
  rw [lines, lines, unlines_append, unlines_append, String.toList_append, String.toList_append]
  refine (alike_block o h).append ?_
  simp only [lenient, Resource.check?, Resource.content_erase]
  cases r.content with
  | text s => exact ContentCheck.alike_block o r.title s
  | unchecked => exact alike_fixed rfl
  | unusable v => exact alike_fixed rfl

namespace Spec

theorem alike_header (o : Options) (root : RootClass) (rs rs' : List Resource) :
    Alike (unlines (lenient o .standard root rs).header).toList
      (unlines (lenient o .standard root.erase rs').header).toList := by
  have hparams : root.erase.params.isSome = root.params.isSome := Option.isSome_map
  have hif (b : Bool) {s : String} (h : (lex .outside s.toList).1 = .outside) :
      Alike (if b then s else "").toList (if b then s else "").toList := by
    cases b
    · exact alike_fixed rfl
    · exact alike_fixed h
  rw [unlines_header, unlines_header]
  simp only [lenient, hparams, String.toList_append, List.append_assoc]
  refine .fixed_append rfl ((hif _ rfl).append ((hif _ rfl).append ?_))
  refine .fixed_append rfl (.fixed_append rfl ((alike_singleQuoted _ _).append ?_))
  exact alike_fixed rfl

theorem alike_paramsBlock (root : RootClass) :
    Alike (unlines (paramsBlock root.params)).toList
      (unlines (paramsBlock root.erase.params)).toList := by
  unfold RootClass.erase
  cases root.params with
  | none => exact alike_fixed rfl
  | some ms =>
    have hhash := alike_pretty_erase (blank_replicate 4) 0 (.object ms)
    rw [Option.map_some, toList_unlines_paramsBlock, toList_unlines_paramsBlock]
    have hindented := (alike_blank (blank_replicate 4)).append hhash
    exact .fixed_append rfl (hindented.append (alike_fixed rfl))

theorem alike_blocks (o : Options) {rs : List Resource} (h : ∀ r ∈ rs, r.HasPlainType) :
    Alike (blocks o rs) (blocks o (rs.map Resource.erase)) := by
  induction rs with
  | nil => exact alike_fixed rfl
  | cons r rs ih =>
    exact (Example.alike_lines o (h r List.mem_cons_self)).append
      (ih fun q hq => h q (List.mem_cons_of_mem r hq))

theorem alike_ending (compiles : Bool) (className className' : String) :
    Alike (ending compiles className) (ending compiles className') := by
  cases compiles
  · rw [ending_false, ending_false]
    exact alike_fixed rfl
  · rw [ending_true, ending_true]
    refine .fixed_append rfl ((alike_singleQuoted _ _).append ?_)
    refine .fixed_append rfl (.fixed_append (by decide +kernel) ?_)
    refine .fixed_append rfl ((alike_singleQuoted _ _).append ?_)
    exact .fixed_append (by decide +kernel) (alike_fixed rfl)

theorem alike_text (o : Options) (root : RootClass) {rs : List Resource}
    (h : ∀ r ∈ rs, r.HasPlainType) :
    Alike (lenient o .standard root rs).text.toList
      (lenient o .standard root.erase (rs.map Resource.erase)).text.toList := by
  rw [toList_text_lenient, toList_text_lenient]
  refine (alike_header o root rs _).append ((alike_paramsBlock root).append ?_)
  exact (alike_blocks o h).append (alike_ending _ _ _)

end Spec

/-- If two inputs differ only in the class name, in strings and in names that stand in literals,
then both texts end outside of all literals, and they are equal when these are blanked out. -/
theorem Generator.lex_emit (o : Options) (choice : ClassChoice) (root root' : RootClass)
    (rs rs' : List Resource) (text text' : String) (hrs : ∀ r ∈ rs, r.HasPlainType)
    (hroot : root.erase = root'.erase) (hsame : rs.map Resource.erase = rs'.map Resource.erase)
    (h : (Generator.emit ⟨o, .standard, choice⟩ root rs).outcome = .ok text)
    (h' : (Generator.emit ⟨o, .standard, choice⟩ root' rs').outcome = .ok text') :
    ∃ skeleton, lex .outside text.toList = (.outside, skeleton) ∧
      lex .outside text'.toList = (.outside, skeleton) := by
  -- Erasing keeps the types, so those of the second input are plain as well.
  have hrs' : ∀ r ∈ rs', r.HasPlainType := by
    intro r hr
    have hmem : r.erase ∈ rs.map Resource.erase := hsame ▸ List.mem_map_of_mem hr
    obtain ⟨q, hq, heq⟩ := List.mem_map.mp hmem
    have htype : q.erase.type = r.erase.type := congrArg Resource.type heq
    intro c hc
    exact hrs q hq c (htype ▸ hc)
  have halike := Spec.alike_text o root hrs
  have halike' := Spec.alike_text o root' hrs'
  rw [← hroot, ← hsame] at halike'
  rw [eq_text_of_outcome_emit h, eq_text_of_outcome_emit h']
  exact halike.trans halike'.symm

/-- Quotes, backslashes and whole lines of a spec stay in the literals they are written into. -/
theorem Generator.lex_emit_hostile :
    let harmless : Resource :=
      ⟨"File", "a", [("ensure", .string "file"), ("content", .string "b"),
        ("mode", .object [("c", .string "d")])]⟩
    let hostile : Resource :=
      ⟨"File", "a' do\n  end\nend\\", [("ensure", .string "file"), ("content", .string "\\\"\n],"),
        ("x', 'y", .object [("\" => \\", .string "#\x7b'\x7d\"")])]⟩
    ∃ skeleton,
      lex .outside (Spec.lenient {} .standard ⟨some "a", none⟩ [harmless]).text.toList =
        (.outside, skeleton) ∧
      lex .outside (Spec.lenient {} .standard ⟨some "'\\", none⟩ [hostile]).text.toList =
        (.outside, skeleton) := by
  intro harmless hostile
  have hplain : ∀ r ∈ [harmless], r.HasPlainType := by decide
  have hsame : [harmless].map Resource.erase = [hostile].map Resource.erase := rfl
  have hemit (root : RootClass) (r : Resource) :
      (Generator.emit ⟨{}, .standard, .inferred⟩ root [r]).outcome =
        .ok (Spec.lenient {} .standard root [r]).text := by
    rw [outcome_emit]
    rfl
  exact lex_emit {} .inferred ⟨some "a", none⟩ ⟨some "'\\", none⟩ [harmless] [hostile] _ _ hplain
    rfl hsame (hemit _ _) (hemit _ _)

end CatalogRspec
