import CatalogRspec.Json.Value

namespace CatalogRspec

namespace Json

/-- Removes a member; the last member takes its place. -/
def Members.swapErase (ms : Members) (key : String) : Members :=
  match ms.getLast? with
  | none => []
  | some last =>
    if last.1 == key then ms.dropLast
    else ms.dropLast.map fun m => if m.1 == key then last else m

def Value.member? (key : String) : Value → Option Value
  | .object members => Members.get? members key
  | _ => none

end Json

namespace Envelope

open Json

def resourcesOf (data : Value) : Value := (data.member? "resources").getD .null

/-- Older catalogs keep their resources under a member `data`. The resources are lifted to the top
level and the envelope is dropped. -/
def unwrap : Value → Value
  | .object members =>
    match Members.get? members "data" with
    | some data =>
      .object (Members.insert (Members.swapErase members "data") "resources" (resourcesOf data))
    | none => .object members
  | v => v

def isWrapped (v : Value) : Bool := (v.member? "data").isSome

end Envelope

end CatalogRspec
