import CatalogRspec.EscapeRules
import CatalogRspec.Literal.Quoted
import CatalogRspec.Proofs.Text.Backslash

namespace CatalogRspec

namespace Text

theorem toList_replace_backslash (old new : String) (a : Char) (w : List Char)
    (hold : old.toList = a :: w) (hnew : new.toList = '\\' :: a :: w) (h : a ∉ w) (s : String) :
    (replace old new s).toList = backslashed [a :: w] s.toList := by
  have hne : old.isEmpty = false := by
    rw [Bool.eq_false_iff, ne_eq, String.isEmpty_iff]
    rintro rfl
    cases hold
  rw [replace, hne, hold, hnew, ← replaceFrom_eq_backslashed h]
  simp

end Text

namespace Literal

open Text

theorem toList_escapeSingle (s : String) :
    (escapeSingle s).toList = backslashed [['\\'], ['\'']] s.toList := by
  unfold escapeSingle
  rw [toList_replace_backslash "'" "\\'" '\'' [] rfl rfl (by simp),
    toList_replace_backslash "\\" "\\\\" '\\' [] rfl rfl (by simp),
    backslashed_backslashed (by decide)]
  rfl

/-- The two replacements put a backslash before each backslash and each quote, and do nothing else. -/
theorem toList_escapeSingle_flatMap (s : String) :
    (escapeSingle s).toList =
      s.toList.flatMap fun c => if c = '\\' ∨ c = '\'' then ['\\', c] else [c] := by
  have hpass := backslashed_singletons ['\\', '\''] s.toList
  rw [toList_escapeSingle]
  simpa using hpass

theorem toList_singleQuoted (s : String) :
    (singleQuoted s).toList = '\'' :: (backslashed [['\\'], ['\'']] s.toList ++ ['\'']) := by
  simp [singleQuoted, toList_escapeSingle]

theorem toList_singleQuoted_append (s : String) (rest : List Char) :
    (singleQuoted s).toList ++ rest =
      '\'' :: (backslashed [['\\'], ['\'']] s.toList ++ '\'' :: rest) := by
  simp [toList_singleQuoted]

theorem escapeSingle_append (s t : String) :
    escapeSingle (s ++ t) = escapeSingle s ++ escapeSingle t := by
  apply String.toList_inj.mp
  rw [String.toList_append, toList_escapeSingle_flatMap, toList_escapeSingle_flatMap,
    toList_escapeSingle_flatMap, String.toList_append, List.flatMap_append]

def IsPlain (s : String) : Prop := ∀ c ∈ s.toList, c ≠ '\\' ∧ c ≠ '\''

instance (s : String) : Decidable (IsPlain s) :=
  inferInstanceAs (Decidable (∀ c ∈ s.toList, c ≠ '\\' ∧ c ≠ '\''))

theorem escapeSingle_of_isPlain {s : String} (h : IsPlain s) : escapeSingle s = s := by
  have hheads : ∀ p ∈ [['\\'], ['\'']], ∀ c ∈ s.toList, p.head? ≠ some c := by
    simpa using ⟨fun c hc e => (h c hc).1 e.symm, fun c hc e => (h c hc).2 e.symm⟩
  have happend := backslashed_append (by decide) hheads []
  apply String.toList_inj.mp
  rw [toList_escapeSingle]
  simpa [backslashed] using happend

end Literal

namespace EscapeRules

open Text

def standardPatterns : List (List Char) := standard.map (·.pattern.toList)

theorem toList_apply_standard (s : String) :
    (apply standard s).toList = backslashed standardPatterns s.toList := by
  have hlong := toList_replace_backslash "$EscapeControlCharactersOnReceive"
    "\\$EscapeControlCharactersOnReceive" '$' "EscapeControlCharactersOnReceive".toList rfl rfl
    (by decide)
  simp only [apply, standard, List.foldl_cons, List.foldl_nil]
  rw [hlong, toList_replace_backslash "$;" "\\$;" '$' [';'] rfl rfl (by decide),
    toList_replace_backslash "@" "\\@" '@' [] rfl rfl (by simp),
    toList_replace_backslash "\"" "\\\"" '"' [] rfl rfl (by simp),
    toList_replace_backslash "\\" "\\\\" '\\' [] rfl rfl (by simp)]
  -- Every pattern stays as it is under the backslashes of the rules before it.
  have hquote : Apart [['\\']] ['"'] := by decide
  have hat : Apart ([['\\']] ++ [['"']]) ['@'] := by decide
  have hglobal : Apart ([['\\']] ++ [['"']] ++ [['@']]) ['$', ';'] := by decide
  have hdirective : Apart ([['\\']] ++ [['"']] ++ [['@']] ++ [['$', ';']])
      ('$' :: "EscapeControlCharactersOnReceive".toList) := by decide
  rw [backslashed_backslashed hquote, backslashed_backslashed hat, backslashed_backslashed hglobal,
    backslashed_backslashed hdirective]
  rfl

end EscapeRules

end CatalogRspec
