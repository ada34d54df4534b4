import CatalogRspec.Proofs.Text.Escaping
import CatalogRspec.Proofs.Text.Marks

namespace CatalogRspec

namespace Text

/-- Takes the backslash away from each character that has one, from left to right. -/
def stripped : List Char → List Char
  | '\\' :: c :: s => c :: stripped s
  | c :: s => c :: stripped s
  | [] => []

theorem stripped_cons {c : Char} (hc : c ≠ '\\') (s : List Char) :
    stripped (c :: s) = c :: stripped s := by
  conv_lhs => unfold stripped
  split
  next h => exact absurd (List.cons.inj h).1 hc
  next h => rw [(List.cons.inj h).1, (List.cons.inj h).2]
  next h => cases h

theorem stripped_marked {mark : List Char → Bool} (h : ∀ s, mark ('\\' :: s) = true)
    (s : List Char) : stripped (marked mark s) = s := by
  induction s with
  | nil => rfl
  | cons c s ih =>
    rw [marked]
    by_cases hm : mark (c :: s) = true
    · rw [if_pos hm, stripped, ih]
    · have hc : c ≠ '\\' := by
        rintro rfl
        exact hm (h s)
      rw [if_neg hm, stripped_cons hc, ih]

end Text

namespace EscapeRules

open Text

/-- Whether the text begins with a character that gets a backslash. A dollar sign gets one before two
of the things that may follow it. -/
def takesBackslash : List Char → Bool
  | [] => false
  | c :: s =>
    c == '\\' || c == '"' || c == '@' ||
      c == '$' && ([';'].isPrefixOf s || "EscapeControlCharactersOnReceive".toList.isPrefixOf s)

theorem any_standardPatterns (t : List Char) :
    standardPatterns.any (·.isPrefixOf t) = takesBackslash t := by
  cases t with
  | nil => rfl
  | cons c s =>
    have hcomm (d : Char) : (d == c) = (c == d) := Bool.beq_comm
    simp only [standardPatterns, standard, List.map_cons, List.map_nil, List.any_cons, List.any_nil,
      String.reduceToList, List.isPrefixOf_cons_cons, List.isPrefixOf_nil_left, hcomm,
      takesBackslash, Bool.and_or_distrib_left, Bool.or_assoc, Bool.and_true, Bool.or_false]

/-- The rules put one backslash before each backslash, quote and at sign of the content, and before each
dollar sign that a semicolon or the name of the directive follows; the rest of the content stays as it
is. Without these backslashes the content is there again, so no two contents give the same text. -/
theorem apply_standard_once :
    (∀ text, (standard.apply text).toList = marked takesBackslash text.toList) ∧
    (∀ text, stripped (standard.apply text).toList = text.toList) ∧
    Function.Injective standard.apply := by
  have hpass (text : String) :
      (standard.apply text).toList = marked takesBackslash text.toList := by
    rw [toList_apply_standard, backslashed_eq_marked, funext any_standardPatterns]
  have hback (text : String) : stripped (standard.apply text).toList = text.toList := by
    rw [hpass]
    exact stripped_marked (fun _ => rfl) _
  refine ⟨hpass, hback, ?_⟩
  intro a b h
  apply String.toList_inj.mp
  rw [← hback a, ← hback b, h]

end EscapeRules

end CatalogRspec
