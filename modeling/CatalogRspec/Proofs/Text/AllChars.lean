import Mathlib.Data.List.Basic

namespace CatalogRspec.Text

/-- Runs through the text, and not through all characters that there are. -/
instance decidableAllChars (p : Char → Prop) [DecidablePred p] (s : List Char) :
    Decidable (∀ c ∈ s, p c) :=
  List.decidableBAll p s

end CatalogRspec.Text
