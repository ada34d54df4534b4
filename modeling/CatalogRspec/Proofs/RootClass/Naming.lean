import CatalogRspec.Proofs.Spec.TypeName
import CatalogRspec.Proofs.Text.AllChars
import CatalogRspec.Proofs.Text.Splitting
import CatalogRspec.RootClass

namespace CatalogRspec

open Text Unicode

def isSmallChar (c : Char) : Bool := c.isLower || c.isDigit || c == '_'

def IsCapitalized : List Char → Prop
  | [] => False
  | c :: s => c.isUpper = true ∧ ∀ d ∈ s, isSmallChar d = true

instance : (s : List Char) → Decidable (IsCapitalized s)
  | [] => inferInstanceAs (Decidable False)
  | c :: s => inferInstanceAs (Decidable (c.isUpper = true ∧ ∀ d ∈ s, isSmallChar d = true))

/-- A title as the compiler writes them: every segment between double colons is capitalized. -/
def IsClassTitle (title : String) : Prop :=
  ∀ segment ∈ split "::" title, IsCapitalized segment.toList

instance (title : String) : Decidable (IsClassTitle title) :=
  inferInstanceAs (Decidable (∀ segment ∈ split "::" title, IsCapitalized segment.toList))

theorem isTypeChar_of_isAlpha {c : Char} (h : c.isAlpha = true) : isTypeChar c = true := by
  simp [isTypeChar, Char.isAlphanum, h]

theorem isTypeChar_of_isUpper {c : Char} (h : c.isUpper = true) : isTypeChar c = true :=
  isTypeChar_of_isAlpha (Bool.or_eq_true_iff.mpr (.inl h))

theorem isTypeChar_of_isSmallChar {c : Char} (h : isSmallChar c = true) : isTypeChar c = true := by
  simp only [isSmallChar, Bool.or_eq_true] at h
  rcases h with (hlower | hdigit) | hunderscore
  · exact isTypeChar_of_isAlpha (Bool.or_eq_true_iff.mpr (.inr hlower))
  · simp [isTypeChar, Char.isAlphanum, hdigit]
  · simp [isTypeChar, hunderscore]

theorem upperChar_toLower {c : Char} (h : c.isUpper = true) : upperChar c.toLower = [c] := by
  have hall : ∀ n < 128, (Char.ofNat n).isUpper = true →
      upperChar (Char.ofNat n).toLower = [Char.ofNat n] := by
    decide +kernel
  simpa [h] using hall c.toNat (toNat_of_isTypeChar (isTypeChar_of_isUpper h))

theorem lowerChar_toLower {c : Char} (h : isSmallChar c = true) : lowerChar c.toLower = [c] := by
  have hall : ∀ n < 128, isSmallChar (Char.ofNat n) = true →
      lowerChar (Char.ofNat n).toLower = [Char.ofNat n] := by
    decide +kernel
  simpa [h] using hall c.toNat (toNat_of_isTypeChar (isTypeChar_of_isSmallChar h))

theorem flatMap_lowerChar_toLower {s : List Char} (h : ∀ d ∈ s, isSmallChar d = true) :
    (s.map Char.toLower).flatMap lowerChar = s := by
  induction s with
  | nil => rfl
  | cons d s ih =>
    have hrest := ih fun e he => h e (List.mem_cons_of_mem d he)
    rw [List.map_cons, List.flatMap_cons, lowerChar_toLower (h d List.mem_cons_self), hrest,
      List.singleton_append]

theorem capitalize_toLower {s : List Char} (h : IsCapitalized s) :
    capitalize (s.map Char.toLower) = s := by
  cases s with
  | nil => cases h
  | cons c s =>
    rw [List.map_cons, capitalize, upperChar_toLower h.1, flatMap_lowerChar_toLower h.2,
      List.singleton_append]

theorem IsCapitalized.isTypeChar {s : List Char} (h : IsCapitalized s) {c : Char} (hc : c ∈ s) :
    isTypeChar c = true := by
  cases s with
  | nil => cases hc
  | cons d s =>
    rcases List.mem_cons.mp hc with rfl | hc
    · exact isTypeChar_of_isUpper h.1
    · exact isTypeChar_of_isSmallChar (h.2 c hc)

theorem IsClassTitle.toNat_lt {title : String} (h : IsClassTitle title) :
    ∀ c ∈ title.toList, c.toNat < 128 := by
  intro c hc
  rcases mem_split (by decide : "::".toList ≠ []) hc with hcolon | ⟨segment, hsegment, hc⟩
  · have hcolons : ∀ c ∈ "::".toList, c.toNat < 128 := by decide
    exact hcolons c hcolon
  · exact toNat_of_isTypeChar ((h segment hsegment).isTypeChar hc)

theorem toLower_eq_colon_iff (c : Char) : c.toLower = ':' ↔ c = ':' := by
  by_cases h : c.toNat < 128
  · have hall : ∀ n < 128, (Char.ofNat n).toLower = ':' ↔ Char.ofNat n = ':' := by decide +kernel
    simpa using hall c.toNat h
  · have hkept : c.toLower = c := by
      unfold Char.toLower
      rw [dif_neg]
      rintro ⟨-, hz⟩
      exact h (Nat.lt_of_le_of_lt (UInt32.le_iff_toNat_le.mp hz) (by decide))
    rw [hkept]

theorem split_lowercase {s : String} (h : ∀ c ∈ s.toList, c.toNat < 128) :
    split "::" (lowercase s) =
      (split "::" s).map fun segment => String.ofList (segment.toList.map Char.toLower) := by
  have hcolon : ∀ d ∈ "::".toList, ∀ c : Char, c.toLower = d ↔ c = d := by
    simpa using toLower_eq_colon_iff
  rw [split, split, toList_lowercase_of_ascii h, splitFrom_map hcolon]
  simp [Function.comp_def]

theorem capitalizeClassName_lowercase {title : String} (h : IsClassTitle title) :
    capitalizeClassName (lowercase title) = title := by
  have hback : ∀ segment ∈ split "::" title,
      String.ofList (capitalize (segment.toList.map Char.toLower)) = segment := by
    intro segment hsegment
    rw [capitalize_toLower (h segment hsegment), String.ofList_toList]
  have hsegments : (split "::" (lowercase title)).map
      (fun segment => String.ofList (capitalize segment.toList)) = split "::" title := by
    rw [split_lowercase h.toNat_lt, List.map_map]
    simpa [Function.comp_def] using List.map_congr_left hback
  rw [capitalizeClassName, hsegments, intercalate_split (by decide)]

end CatalogRspec
