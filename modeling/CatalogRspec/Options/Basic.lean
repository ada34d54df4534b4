namespace CatalogRspec

/-- What goes into a spec, and how file content is checked. -/
structure Options where
  /-- Resource types, or patterns for them between slashes, that are left out. -/
  excludes : List String := []
  /-- References to the only resources that are kept; if there are any, `excludes` does not count. -/
  onlyInclude : List String := []
  md5sums : Bool := false
  strictContent : Bool := false
deriving Repr, DecidableEq

namespace Options

def exclude (o : Options) (entry : String) : Options :=
  if o.excludes.contains entry then o else { o with excludes := o.excludes ++ [entry] }

def allow (o : Options) (entry : String) : Options :=
  { o with excludes := o.excludes.filter (· != entry) }

def addOnlyInclude (o : Options) (reference : String) : Options :=
  { o with onlyInclude := o.onlyInclude ++ [reference] }

end Options

end CatalogRspec
