import CatalogRspec.Catalog.Resource
import CatalogRspec.Digest.Md5
import CatalogRspec.EscapeRules
import CatalogRspec.Literal.Inspect
import CatalogRspec.Log.Event
import CatalogRspec.Options.Basic
import CatalogRspec.RootClass
import CatalogRspec.Spec.Basic

namespace CatalogRspec

open Json

def contentParam : String := "content"

def ensureParam : String := "ensure"

/-- What a parameter has to equal; scalars are compared as strings, and null expects nothing. -/
def expectedLiteral? : Value → Option String
  | .null => none
  | .string s => some (Literal.singleQuoted s)
  | .bool b => some (Literal.singleQuoted (if b then "true" else "false"))
  | .number n => some (Literal.singleQuoted n.text)
  | v => some (Literal.inspect v)

/-- The content of a file as far as it can be checked. -/
inductive Content where
  | unchecked
  | text (s : String)
  | unusable (v : Value)

def Content.ofParameter : Option Value → Content
  | none | some .null => .unchecked
  | some (.string s) => .text s
  | some v => .unusable v

/-- File content that is not a string, where only strings are allowed. -/
structure UnusableContent where
  reference : String
  value : Value

namespace Resource

def ensuresPlainFile (r : Resource) : Bool :=
  match r.parameter? ensureParam with
  | none => true
  | some (.string s) => s == "file" || s == "present"
  | some _ => false

def content (r : Resource) : Content :=
  if r.isType fileType && r.ensuresPlainFile then .ofParameter (r.parameter? contentParam)
  else .unchecked

/-- The content of a file is checked on its own, and not among the parameters. -/
def isExpected (r : Resource) (name : String) : Bool :=
  !(r.isType fileType && name == contentParam)

def expectations (r : Resource) : List (String × String) :=
  r.parameters.filterMap fun (name, v) =>
    if r.isExpected name then (expectedLiteral? v).map (name, ·) else none

end Resource

def ContentCheck.ofText (o : Options) (rules : EscapeRules) (s : String) : ContentCheck :=
  if o.md5sums then .digest (Md5.hexDigest s) else .lines (rules.apply s)

/-- The example for a resource. Content that cannot be used goes unchecked, if that is allowed. -/
def Example.ofResource (o : Options) (rules : EscapeRules) (r : Resource) :
    Except UnusableContent Example :=
  match r.content with
  | .unchecked => .ok ⟨r.type, r.title, r.expectations, none⟩
  | .text s => .ok ⟨r.type, r.title, r.expectations, some (.ofText o rules s)⟩
  | .unusable v =>
    if o.strictContent then .error ⟨r.reference, v⟩
    else .ok ⟨r.type, r.title, r.expectations, none⟩

namespace Spec

def ofResources (o : Options) (rules : EscapeRules) (root : RootClass) (rs : List Resource) :
    Except UnusableContent Spec := do
  let examples ← rs.mapM (Example.ofResource o rules)
  return ⟨root.nameOrBlank, root.params, o.md5sums, examples, o.onlyInclude.isEmpty⟩

def skipped (rs : List Resource) : List String :=
  rs.filterMap fun r =>
    match r.content with
    | .unusable _ => some r.reference
    | _ => none

def ofResourcesEvents (o : Options) (rs : List Resource) : List Event :=
  if o.strictContent then [] else (skipped rs).map .contentSkipped

end Spec

end CatalogRspec
