import CatalogRspec.Catalog.Resource
import CatalogRspec.Proofs.Text.Escaping
import CatalogRspec.Proofs.Unicode.Lowercase
import CatalogRspec.Spec.Text

namespace CatalogRspec

namespace Text

theorem mem_replaceFrom {old new s : List Char} {skip : Nat} {c : Char}
    (h : c ∈ replaceFrom old new skip s) : c ∈ new ∨ c ∈ s := by
  induction s generalizing skip with
  | nil => cases skip <;> cases h
  | cons d s ih =>
    cases skip with
    | succ skip => exact (ih h).imp_right (List.mem_cons_of_mem d)
    | zero =>
      rw [replaceFrom] at h
      split at h
      · rcases List.mem_append.mp h with h | h
        · exact .inl h
        · exact (ih h).imp_right (List.mem_cons_of_mem d)
      · rcases List.mem_cons.mp h with rfl | h
        · exact .inr List.mem_cons_self
        · exact (ih h).imp_right (List.mem_cons_of_mem d)

theorem mem_replace {old new s : String} {c : Char} (h : c ∈ (replace old new s).toList) :
    c ∈ new.toList ∨ c ∈ s.toList := by
  unfold replace at h
  split at h
  · exact .inr h
  · rw [String.toList_ofList] at h
    exact mem_replaceFrom h

end Text

def isTypeChar (c : Char) : Bool := c.isAlphanum || c == '_' || c == ':'

/-- A type that is written with ASCII letters and digits, underscores and colons. -/
def Resource.HasPlainType (r : Resource) : Prop := ∀ c ∈ r.type.toList, isTypeChar c = true

instance (r : Resource) : Decidable r.HasPlainType :=
  inferInstanceAs (Decidable (∀ c ∈ r.type.toList, isTypeChar c = true))

theorem toNat_of_isTypeChar {c : Char} (h : isTypeChar c = true) : c.toNat < 128 := by
  have hle : ∀ d : Char, c.val ≤ d.val → d.toNat < 128 → c.toNat < 128 := fun d hcd hd =>
    Nat.lt_of_le_of_lt (UInt32.le_iff_toNat_le.mp hcd) hd
  simp only [isTypeChar, Char.isAlphanum, Bool.or_eq_true, beq_iff_eq] at h
  rcases h with ((halpha | hdigit) | rfl) | rfl
  · rcases (Bool.or_eq_true _ _).mp halpha with hupper | hlower
    · exact hle 'Z' (of_decide_eq_true hupper).2 (by decide)
    · exact hle 'z' (of_decide_eq_true ((Bool.and_eq_true _ _).mp hlower).2) (by decide)
  · exact hle '9' (of_decide_eq_true ((Bool.and_eq_true _ _).mp hdigit).2) (by decide)
  · decide
  · decide

theorem isTypeChar_toLower {c : Char} (h : isTypeChar c = true) : isTypeChar c.toLower = true := by
  have hall : ∀ n < 128, isTypeChar (Char.ofNat n) = true →
      isTypeChar (Char.ofNat n).toLower = true := by
    decide +kernel
  simpa using hall c.toNat (toNat_of_isTypeChar h) (by simpa using h)

theorem isTypeChar_lowercase {type : String} (h : ∀ c ∈ type.toList, isTypeChar c = true) :
    ∀ c ∈ (Unicode.lowercase type).toList, isTypeChar c = true := by
  intro c hc
  rw [Unicode.toList_lowercase_of_ascii fun d hd => toNat_of_isTypeChar (h d hd)] at hc
  obtain ⟨d, hd, rfl⟩ := List.mem_map.mp hc
  exact isTypeChar_toLower (h d hd)

theorem lowercase_of_isTypeChar {type : String} (h : ∀ c ∈ type.toList, isTypeChar c = true) :
    Unicode.lowercase type = type.toLower := by
  have hlower : type.toLower = type.map Char.toLower := rfl
  apply String.toList_injective
  rw [Unicode.toList_lowercase_of_ascii fun d hd => toNat_of_isTypeChar (h d hd), hlower,
    String.toList_map]

/-- A type as it stands in the name of a matcher. -/
def flatType (type : String) : String := Text.replace "::" "__" (Unicode.lowercase type)

theorem isTypeChar_flatType {type : String} (h : ∀ c ∈ type.toList, isTypeChar c = true) :
    ∀ c ∈ (flatType type).toList, isTypeChar c = true := by
  intro c hc
  rcases Text.mem_replace hc with hc | hc
  · exact (by decide : ∀ c ∈ "__".toList, isTypeChar c = true) c hc
  · exact isTypeChar_lowercase h c hc

theorem isPlain_of_isTypeChar {s : String} (h : ∀ c ∈ s.toList, isTypeChar c = true) :
    Literal.IsPlain s := by
  intro c hc
  constructor <;> rintro rfl <;> exact absurd (h _ hc) (by decide)

end CatalogRspec
