import CatalogRspec.Json.Value

namespace CatalogRspec

/-- A declared resource, with its parameters in the order the compiler gave them. -/
structure Resource where
  type : String
  title : String
  parameters : Json.Members

structure Catalog where
  resources : List Resource

def classType : String := "Class"

def fileType : String := "File"

namespace Resource

def isType (r : Resource) (type : String) : Bool := r.type == type

def parameter? (r : Resource) (name : String) : Option Json.Value := r.parameters.get? name

def reference (r : Resource) : String := r.type ++ "[" ++ r.title ++ "]"

end Resource

end CatalogRspec
