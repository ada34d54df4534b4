import CatalogRspec.Filter.Basic
import CatalogRspec.Log.Traced
import CatalogRspec.Spec.Expectation
import CatalogRspec.Spec.Text

namespace CatalogRspec

/-- Why there is no spec. -/
inductive SpecError where
  | pattern (e : BadPattern)
  | content (e : UnusableContent)

def SpecError.chain : SpecError → List String
  | .pattern e => ["invalid exclude pattern " ++ e.entry, e.refusal.message e.source]
  | .content e =>
    [e.reference ++ ": content is not a string (got " ++ Literal.inspect e.value ++ ")"]

/-- What ends the making of a spec: something is refused, or the keys of a hash among the class
parameters are too wide to line its arrows up, which ends the whole program. -/
inductive Stop where
  | refused (e : SpecError)
  | keyTooWide

structure Generator where
  options : Options := {}
  escapes : EscapeRules := .standard
  choice : ClassChoice := .inferred

namespace Generator

/-- The spec for resources that are not filtered any more, however wide the keys of the class
parameters are. -/
def emit (g : Generator) (root : RootClass) (rs : List Resource) : Traced SpecError String :=
  ⟨Spec.ofResourcesEvents g.options rs,
    ((Spec.ofResources g.options g.escapes root rs).map Spec.text).mapError .content⟩

/-- The class of the catalog, and the resources to assert. The class comes first, so a filter that
drops classes leaves the head of the spec as it is. -/
def select (g : Generator) (c : Catalog) : Traced SpecError (RootClass × List Resource) := do
  let root := RootClass.resolve g.choice c.resources
  Traced.report root.events
  Traced.report (Filter.ofOptionsEvents g.options)
  let filter ← Traced.ofExcept ((Filter.ofOptions g.options).mapError .pattern)
  Traced.report (filter.applyEvents c.resources)
  return (root, filter.apply c.resources)

def generate (g : Generator) (c : Catalog) : Traced SpecError String := do
  let (root, rs) ← g.select c
  g.emit root rs

/-- The spec for resources that are not filtered any more. The class parameters come before the first
resource, so wide keys are met before content that is refused, and before anything is reported. -/
def emitBounded (g : Generator) (root : RootClass) (rs : List Resource) : Traced Stop String :=
  if root.params.all fun params => (Literal.prettyHash? params).isSome then
    (g.emit root rs).mapError .refused
  else ⟨[], .error .keyTooWide⟩

def generateBounded (g : Generator) (c : Catalog) : Traced Stop String := do
  let (root, rs) ← (g.select c).mapError .refused
  g.emitBounded root rs

end Generator

end CatalogRspec
