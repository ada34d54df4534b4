import CatalogRspec.Catalog.Resource
import CatalogRspec.Pattern.Basic

namespace CatalogRspec

/-- An entry of the exclude list: a type, or a pattern that is searched for in types. -/
inductive ExcludeRule where
  | type (name : String)
  | pattern (p : Pattern)

/-- An exclude entry whose pattern cannot be used. -/
structure BadPattern where
  entry : String
  source : String
  refusal : Pattern.Refusal

namespace ExcludeRule

def delimited? (entry : String) : Option String :=
  match entry.toList with
  | '/' :: rest =>
    match rest.getLast? with
    | some '/' => some (String.ofList rest.dropLast)
    | _ => none
  | _ => none

def parse (entry : String) : Except BadPattern ExcludeRule :=
  match delimited? entry with
  | none => .ok (.type entry)
  | some source =>
    match Pattern.parse source with
    | .ok p => .ok (.pattern p)
    | .error refusal => .error ⟨entry, source, refusal⟩

def hits : ExcludeRule → Resource → Bool
  | .type name, r => r.type == name
  | .pattern p, r => p.occursIn r.type

end ExcludeRule

end CatalogRspec
