import CatalogRspec.Digest.Md5
import CatalogRspec.Proofs.Text.Escaping

namespace CatalogRspec

namespace Text

theorem mem_lowerHex {width n : Nat} {c : Char} (h : c ∈ lowerHex width n) :
    c ∈ "0123456789abcdef".toList := by
  have hdigits : ∀ k < 16,
      ("0123456789abcdef".toList)[k]?.getD '0' ∈ "0123456789abcdef".toList := by
    decide
  induction width generalizing n with
  | zero => cases h
  | succ width ih =>
    rw [lowerHex, List.mem_append, List.mem_singleton] at h
    rcases h with h | rfl
    · exact ih h
    · exact hdigits (n % 16) (Nat.mod_lt n (by decide))

end Text

theorem Md5.isPlain_hexDigest (s : String) : Literal.IsPlain (hexDigest s) := by
  have hdigits : ∀ c ∈ "0123456789abcdef".toList, c ≠ '\\' ∧ c ≠ '\'' := by decide
  intro c hc
  rw [hexDigest, String.toList_ofList] at hc
  obtain ⟨b, -, hb⟩ := List.mem_flatMap.mp hc
  exact hdigits c (Text.mem_lowerHex hb)

end CatalogRspec
