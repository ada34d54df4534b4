import CatalogRspec.Catalog.Envelope
import CatalogRspec.Catalog.Resource

namespace CatalogRspec

open Json

/-- A resource needs a type and a title; without parameters it has an empty list of them. -/
def Resource.ofJson? (v : Value) : Option Resource := do
  let .object members := v | none
  let .string type ← Members.get? members "type" | none
  let .string title ← Members.get? members "title" | none
  match Members.get? members "parameters" with
  | none => some ⟨type, title, []⟩
  | some (.object parameters) => some ⟨type, title, parameters⟩
  | some _ => none

def Catalog.ofJson? (v : Value) : Option Catalog := do
  let .array items ← v.member? "resources" | none
  let resources ← items.mapM Resource.ofJson?
  some ⟨resources⟩

end CatalogRspec
