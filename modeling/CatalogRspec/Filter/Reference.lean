import CatalogRspec.Catalog.Resource
import CatalogRspec.Text.Blank

namespace CatalogRspec

/-- The type and title of a resource. -/
structure Reference where
  type : String
  title : String
deriving Repr, DecidableEq

namespace Reference

/-- Type and title around the first bracket; the last character has to be the closing one. -/
def bracketed? (type rest : List Char) : Option Reference :=
  match rest.getLast? with
  | some ']' =>
    let type := Text.trim type
    let title := Text.trim rest.dropLast
    if type.isEmpty || title.isEmpty then none
    else some ⟨String.ofList type, String.ofList title⟩
  | _ => none

/-- `Type[Title]`, or without any opening bracket the first two words of the text. -/
def parse? (text : String) : Option Reference :=
  let chars := Text.trim text.toList
  match chars.dropWhile (· != '[') with
  | _ :: rest => bracketed? (chars.takeWhile (· != '[')) rest
  | [] =>
    match Text.words chars with
    | type :: title :: _ => some ⟨String.ofList type, String.ofList title⟩
    | _ => none

def isOf (f : Reference) (r : Resource) : Bool := r.type == f.type && r.title == f.title

end Reference

end CatalogRspec
