import CatalogRspec.Catalog.Resource
import CatalogRspec.Log.Event
import CatalogRspec.Text.Replace
import CatalogRspec.Unicode.Casing

namespace CatalogRspec

/-- How the class is found: inferred from the catalog, given by name, or by a rule of the caller. -/
inductive ClassChoice where
  | inferred
  | named (name : String)
  | rule (find? : List Resource → Option String)

/-- Every segment between double colons with a capital first letter, as catalogs title classes. -/
def capitalizeClassName (name : String) : String :=
  String.intercalate "::"
    ((Text.split "::" name).map fun s => String.ofList (Unicode.capitalize s.toList))

def classTitles (rs : List Resource) : List String :=
  (rs.filter (·.isType classType)).map (·.title)

/-- The title of the first class behind `main` that is not `main` itself. -/
def titleAfterMain? (rs : List Resource) : Option String :=
  ((classTitles rs).dropWhile (· != "main")).find? (· != "main")

/-- The name of the class in lower case; a rule of the caller is taken at its word. -/
def ClassChoice.resolve? : ClassChoice → List Resource → Option String
  | .inferred, rs => (titleAfterMain? rs).map Unicode.lowercase
  | .named name, _ => some (Unicode.lowercase name)
  | .rule find?, rs => find? rs

/-- The parameters of the first class with the title that belongs to the name. -/
def classParams? (rs : List Resource) (name : String) : Option Json.Members :=
  (rs.find? fun r => r.isType classType && r.title == capitalizeClassName name).map (·.parameters)

structure RootClass where
  name : Option String
  params : Option Json.Members

namespace RootClass

def resolve (choice : ClassChoice) (rs : List Resource) : RootClass :=
  match choice.resolve? rs with
  | none => ⟨none, none⟩
  | some name => ⟨some name, classParams? rs name⟩

def nameOrBlank (r : RootClass) : String := r.name.getD ""

def events (r : RootClass) : List Event :=
  match r.name with
  | none => [.classNotInferred]
  | some name =>
    (if r.params.isNone then [.classNotFound name (capitalizeClassName name)] else []) ++
      [.classResolved name]

end RootClass

end CatalogRspec
