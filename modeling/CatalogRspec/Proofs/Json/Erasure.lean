import CatalogRspec.Json.Value

namespace CatalogRspec.Json

namespace Value

mutual

/-- The document with all strings emptied and its keys mapped by `key`. -/
def erase (key : String → String) : Value → Value
  | .null => .null
  | .bool b => .bool b
  | .number n => .number n
  | .string _ => .string ""
  | .array items => .array (eraseItems key items)
  | .object members => .object (eraseMembers key members)

def eraseItems (key : String → String) : List Value → List Value
  | [] => []
  | v :: rest => erase key v :: eraseItems key rest

def eraseMembers (key : String → String) : List (String × Value) → List (String × Value)
  | [] => []
  | (k, v) :: rest => (key k, erase key v) :: eraseMembers key rest

end

theorem eraseItems_eq (key : String → String) (items : List Value) :
    eraseItems key items = items.map (erase key) := by
  induction items with
  | nil => rfl
  | cons v rest ih => rw [eraseItems, ih, List.map_cons]

theorem eraseMembers_eq (key : String → String) (ms : Members) :
    eraseMembers key ms = ms.map fun m => (key m.1, erase key m.2) := by
  induction ms with
  | nil => rfl
  | cons m rest ih => rw [eraseMembers, ih, List.map_cons]

end Value

end CatalogRspec.Json
