import CatalogRspec.Filter.Reference
import CatalogRspec.Filter.Rule
import CatalogRspec.Log.Event
import CatalogRspec.Options.Basic

namespace CatalogRspec

/-- Which resources are kept: all but those that a rule hits, or only those that are named. -/
inductive Filter where
  | exclude (rules : List ExcludeRule)
  | onlyInclude (references : List Reference)

namespace Filter

/-- References that cannot be read name nothing. -/
def ofOptions (o : Options) : Except BadPattern Filter :=
  if o.onlyInclude.isEmpty then (o.excludes.mapM ExcludeRule.parse).map .exclude
  else .ok (.onlyInclude (o.onlyInclude.filterMap Reference.parse?))

def ofOptionsEvents (o : Options) : List Event :=
  (o.onlyInclude.filter fun s => (Reference.parse? s).isNone).map .referenceIgnored

def keeps : Filter → Resource → Bool
  | .exclude rules, r => !rules.any (·.hits r)
  | .onlyInclude references, r => references.any (·.isOf r)

def apply (f : Filter) (rs : List Resource) : List Resource := rs.filter f.keeps

def applyEvents (f : Filter) (rs : List Resource) : List Event :=
  let kept := (f.apply rs).length
  [.resourcesFiltered kept (rs.length - kept)]

def isOnlyInclude : Filter → Bool
  | .onlyInclude _ => true
  | .exclude _ => false

end Filter

end CatalogRspec
