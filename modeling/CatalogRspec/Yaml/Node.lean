import CatalogRspec.Yaml.Event

namespace CatalogRspec.Yaml

/-- Where the events of a document end early there is a `cut`, and nothing after it. -/
inductive Node where
  | cut
  | alias (mark : Mark) (anchor : Nat)
  | scalar (mark : Mark) (s : Scalar)
  | sequence (mark : Mark) (items : List Node)
  | mapping (mark : Mark) (entries : List (Node × Node))

namespace Node

/-- Keys and values in turn; a cut stands for a key or value that is missing. -/
def pairs : List Node → List (Node × Node)
  | k :: v :: rest => (k, v) :: pairs rest
  | [k] => [(k, .cut)]
  | [] => []

/-- The nodes of a level and of those around it, the innermost first. A level that nothing closes
ends with a cut, and so does the outermost. -/
abbrev Levels := List (List Node)

namespace Levels

def inner (l : Levels) : List Node := l.headD [.cut]

def push (n : Node) (l : Levels) : Levels := (n :: l.inner) :: l.tail

/-- Reads from the last event to the first, so that a start meets all that it encloses. -/
def ofEvents : List Event → Levels
  | [] => []
  | e :: rest =>
    let later := ofEvents rest
    match e.kind with
    | .alias anchor => later.push (.alias e.mark anchor)
    | .scalar _ s => later.push (.scalar e.mark s)
    | .sequenceStart _ => push (.sequence e.mark later.inner) later.tail
    | .mappingStart _ => push (.mapping e.mark (pairs later.inner)) later.tail
    | .sequenceEnd | .mappingEnd => [] :: later

end Levels

def ofEvents (events : List Event) : Node := (Levels.ofEvents events).inner.headD .cut

def anchored? (anchor : Nat) : List Event → Option Node
  | [] => none
  | e :: rest =>
    (anchored? anchor rest).orElse fun _ =>
      if e.anchor? = some anchor then some (ofEvents (e :: rest)) else none

def resolve (events : List Event) : Node → Node
  | .alias _ anchor => (anchored? anchor events).getD .cut
  | n => n

end Node

end CatalogRspec.Yaml
