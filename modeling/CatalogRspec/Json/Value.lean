import CatalogRspec.Json.Number

namespace CatalogRspec.Json

/-- A JSON document. The members of an object keep their order. -/
inductive Value where
  | null
  | bool (b : Bool)
  | number (n : Number)
  | string (s : String)
  | array (items : List Value)
  | object (members : List (String × Value))

abbrev Members := List (String × Value)

namespace Members

def get? (ms : Members) (key : String) : Option Value := ms.lookup key

def contains (ms : Members) (key : String) : Bool := ms.any (·.1 == key)

/-- A key that is present keeps its place and takes the new value; a new key comes last. -/
def insert (ms : Members) (key : String) (value : Value) : Members :=
  if ms.contains key then ms.map fun m => if m.1 == key then (key, value) else m
  else ms ++ [(key, value)]

end Members

end CatalogRspec.Json
