import CatalogRspec.Catalog.Decoding
import CatalogRspec.Catalog.Envelope
import CatalogRspec.Catalog.Shape
import CatalogRspec.Json.Reader
import CatalogRspec.Log.Traced

namespace CatalogRspec

/-- Why a text is not a catalog. -/
inductive CatalogError where
  | notJson (e : Json.SyntaxError)
  | shape (violations : List Shape.Violation)
  /-- Never met: what has the shape of a catalog can be read as one. -/
  | unreadable

def CatalogError.chain : CatalogError → List String
  | .notJson e => ["catalog is not valid JSON: " ++ e.message, e.message]
  | .shape violations =>
    ["catalog does not match the expected shape:\n" ++
      "\n".intercalate (violations.map (·.message))]
  | .unreadable => ["catalog cannot be read"]

namespace Catalog

/-- The catalog in a document, in either layout. -/
def ofDocument (document : Json.Value) : Except CatalogError Catalog :=
  match Shape.violations (Envelope.unwrap document) with
  | [] =>
    match Catalog.ofJson? (Envelope.unwrap document) with
    | some c => .ok c
    | none => .error .unreadable
  | violations => .error (.shape violations)

def envelopeEvents (document : Json.Value) : List Event :=
  if Envelope.isWrapped document then [.envelopeUnwrapped] else []

def parse (text : String) : Traced CatalogError Catalog := do
  let document ← Traced.ofExcept ((Json.Value.parse text).mapError .notJson)
  Traced.report (envelopeEvents document)
  let c ← Traced.ofExcept (ofDocument document)
  Traced.report [.catalogParsed c.resources.length]
  return c

end Catalog

end CatalogRspec
