import CatalogRspec.Json.Value
import CatalogRspec.Literal.Quoted

namespace CatalogRspec.Literal

open Json

mutual

def inspect : Value → String
  | .null => "nil"
  | .bool b => if b then "true" else "false"
  | .number n => n.text
  | .string s => doubleQuoted s
  | .array items => "[" ++ String.intercalate ", " (inspectItems items) ++ "]"
  | .object members => "\x7b" ++ String.intercalate ", " (inspectMembers members) ++ "\x7d"

def inspectItems : List Value → List String
  | [] => []
  | v :: rest => inspect v :: inspectItems rest

def inspectMembers : List (String × Value) → List String
  | [] => []
  | (k, v) :: rest => (doubleQuoted k ++ " => " ++ inspect v) :: inspectMembers rest

end

end CatalogRspec.Literal
