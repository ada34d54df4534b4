import CatalogRspec.Yaml.Token

namespace CatalogRspec.Yaml

structure Scalar where
  text : String
  style : Style
  tag : Option String
deriving Repr, DecidableEq

/-- What happens at a place of a document. Anchors are numbers, and an alias has that of its anchor. -/
inductive EventKind where
  | alias (anchor : Nat)
  | scalar (anchor : Option Nat) (s : Scalar)
  | sequenceStart (anchor : Option Nat)
  | sequenceEnd
  | mappingStart (anchor : Option Nat)
  | mappingEnd
deriving Repr, DecidableEq

structure Event where
  kind : EventKind
  mark : Mark
deriving Repr, DecidableEq

def Event.anchor? (e : Event) : Option Nat :=
  match e.kind with
  | .scalar anchor _ | .sequenceStart anchor | .mappingStart anchor => anchor
  | .alias _ | .sequenceEnd | .mappingEnd => none

end CatalogRspec.Yaml
