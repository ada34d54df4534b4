import CatalogRspec.Catalog.Text
import CatalogRspec.Proofs.Literal.ReadBack
import CatalogRspec.Proofs.Literal.Unescaped
import CatalogRspec.Proofs.Spec.Assembly
import CatalogRspec.Proofs.Text.Lines
import CatalogRspec.Proofs.Unicode.Lowercase

namespace CatalogRspec

open Literal Text

/-- Neither quotes nor backslashes have small letters or are one, so lower-casing moves none. -/
theorem Unicode.readsAsItself_lowerFrom (before s : List Char) :
    ReadsAsItself (lowerFrom before s) ↔ ReadsAsItself s := by
  induction s generalizing before with
  | nil => rfl
  | cons c s ih =>
    have hquote : IsLowMark '\'' := by decide +kernel
    have hslash : IsLowMark '\\' := by decide +kernel
    rcases lowerFrom_cons_cases before c s with ⟨-, h⟩ | ⟨hc, p, -, hnone, h⟩
    · rw [h, readsAsItself_cons, readsAsItself_cons, head?_lowerFrom_iff hslash,
        ih (c :: before)]
    · have hplain : ∀ d ∈ p, d ≠ '\\' ∧ d ≠ '\'' := fun d hd =>
        ⟨fun e => hnone d hd (e ▸ hslash), fun e => hnone d hd (e ▸ hquote)⟩
      have hc' : c ≠ '\\' ∧ c ≠ '\'' := ⟨fun e => hc (e ▸ hslash), fun e => hc (e ▸ hquote)⟩
      rw [h, readsAsItself_append_of_plain hplain, readsAsItself_cons, ih (c :: before)]
      simp [hc']

def Resource.description (r : Resource) : String :=
  "is expected to contain " ++ Unicode.lowercase r.type ++ " " ++ r.title

namespace Example

theorem exists_unlines_lines (e : Example) :
    ∃ after, (unlines e.lines).toList =
      "  it '".toList ++ ("is expected to contain ".toList ++ (Unicode.lowercase e.type).toList ++
        ' ' :: ((escapeSingle e.title).toList ++ '\'' :: (" do\n".toList ++ after))) := by
  have hit : "  it 'is expected to contain " = "  it '" ++ "is expected to contain " := by simp
  have hspace : " ".toList = [' '] := rfl
  have hquote : "' do".toList = '\'' :: " do".toList := rfl
  have hbreak : " do\n".toList = " do".toList ++ "\n".toList := rfl
  refine ⟨(unlines (e.lines.drop 1)).toList, ?_⟩
  simp only [lines, block, List.cons_append, List.drop_one, List.tail_cons, unlines_cons, hit,
    String.toList_append, List.append_assoc, hspace, hquote, hbreak, List.nil_append]

/-- In the example for a resource, the words behind `it` read as they were meant to, and `do` follows
them, just when the type has no quote in it and no two backslashes in a row. -/
theorem readSingle_description_iff {o : Options} {rules : EscapeRules} {r : Resource} {e : Example}
    (h : ofResource o rules r = .ok e) :
    ∃ words, (unlines e.lines).toList = "  it '".toList ++ words ∧
      ((∃ rest, readSingle words = some (r.description.toList, " do\n".toList ++ rest)) ↔
        ReadsAsItself r.type.toList) := by
  have htype : e.type = r.type ∧ e.title = r.title := by
    rw [ofResource_eq] at h
    split at h
    · cases h
    · exact Except.ok.inj h ▸ ⟨rfl, rfl⟩
  obtain ⟨after, hlines⟩ := exists_unlines_lines e
  refine ⟨_, hlines, ?_⟩
  rw [htype.1, htype.2]
  have htitle : readSingle ((escapeSingle r.title).toList ++ '\'' :: (" do\n".toList ++ after)) =
      some (r.title.toList, " do\n".toList ++ after) := by
    rw [toList_escapeSingle, readSingle_backslashed]
  -- Lower-casing is no escape: it leaves quotes and backslashes where they are.
  have hlead : IsPlain "is expected to contain " := by decide +kernel
  have hraw : ReadsAsItself
        ("is expected to contain ".toList ++ (Unicode.lowercase r.type).toList) ↔
      ReadsAsItself r.type.toList := by
    rw [readsAsItself_append_of_plain hlead, Unicode.lowercase, String.toList_ofList,
      Unicode.readsAsItself_lowerFrom]
  have hdescription : r.description.toList =
      "is expected to contain ".toList ++ (Unicode.lowercase r.type).toList ++
        ' ' :: r.title.toList := by
    have hspace : " ".toList ++ r.title.toList = ' ' :: r.title.toList := rfl
    show ("is expected to contain " ++ Unicode.lowercase r.type ++ " " ++ r.title).toList = _
    rw [String.toList_append, String.toList_append, String.toList_append,
      List.append_assoc _ " ".toList, hspace]
  rw [hdescription]
  constructor
  · rintro ⟨rest, hread⟩
    exact hraw.mp ((readSingle_raw_iff htitle).mp ⟨_, hread⟩)
  · intro htype
    exact ⟨after, by rw [readSingle_raw (hraw.mpr htype), htitle]; rfl⟩

/-- A backslash that stands alone in the type is no harm, and the title may hold anything. -/
theorem readSingle_description_of_lone_backslash :
    let r : Resource := ⟨"A\\B", "c'\\\\", [("ensure", .null)]⟩
    Example.ofResource {} .standard r = .ok ⟨"A\\B", "c'\\\\", [], none⟩ ∧
      ∃ words rest, (unlines (Example.lines ⟨"A\\B", "c'\\\\", [], none⟩)).toList =
          "  it '".toList ++ words ∧
        readSingle words =
          some ("is expected to contain a\\b c'\\\\".toList, " do\n".toList ++ rest) := by
  intro r
  have hmade : Example.ofResource {} .standard r = .ok ⟨"A\\B", "c'\\\\", [], none⟩ := rfl
  have hdescription : r.description = "is expected to contain a\\b c'\\\\" := by decide +kernel
  have htype : ReadsAsItself r.type.toList := ⟨by decide, by decide⟩
  obtain ⟨words, hwords, hread⟩ := readSingle_description_iff hmade
  obtain ⟨rest, hrest⟩ := hread.mpr htype
  exact ⟨hmade, words, rest, hwords, hdescription ▸ hrest⟩

/-- A quote in the type of a catalog's resource ends the words, and the rest of it stands as code. -/
theorem description_ended_by_type :
    let r : Resource := ⟨"It's", "a", []⟩
    (Catalog.parse "\x7b\"resources\":[\x7b\"type\":\"It's\",\"title\":\"a\"\x7d]\x7d").outcome =
        .ok ⟨[r]⟩ ∧
      r.description = "is expected to contain it's a" ∧
      ∃ words, (unlines (lenient {} .standard r).lines).toList = "  it '".toList ++ words ∧
        readSingle words = some ("is expected to contain it".toList,
          "s a' do\n    is_expected.to contain_it's('a').with(\x7b\n    \x7d)\n  end\n\n".toList) := by
  intro r
  refine ⟨rfl, by decide +kernel, (unlines (lenient {} .standard r).lines).toList.drop 6, ?_, ?_⟩
  · decide +kernel
  · decide +kernel

end Example

end CatalogRspec
