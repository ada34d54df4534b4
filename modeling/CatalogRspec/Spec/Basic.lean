import CatalogRspec.Json.Value

namespace CatalogRspec

/-- How the content of a file is checked: line by line, or by its digest. -/
inductive ContentCheck where
  | lines (body : String)
  | digest (hex : String)
deriving Repr, DecidableEq

/-- What a resource is expected to look like; each parameter comes with the literal it must equal. -/
structure Example where
  type : String
  title : String
  expected : List (String × String)
  check : Option ContentCheck
deriving Repr, DecidableEq

structure Spec where
  className : String
  params : Option Json.Members
  usesDigest : Bool
  examples : List Example
  /-- Whether a last example compiles the whole catalog and writes it to a file. -/
  compiles : Bool

end CatalogRspec
