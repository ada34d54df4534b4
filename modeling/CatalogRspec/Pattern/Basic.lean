import CatalogRspec.Pattern.Automaton
import CatalogRspec.Pattern.Meaning
import CatalogRspec.Pattern.Reader
import CatalogRspec.Pattern.Search

namespace CatalogRspec

/-- A regular expression with the text it was read from. -/
structure Pattern where
  source : String
  expr : Pattern.Expr

namespace Pattern

/-- Why a text is no pattern. -/
inductive Refusal where
  | fault (f : Fault)
  | tooLarge
deriving Repr, DecidableEq

def Refusal.message (source : String) : Refusal → String
  | .fault f => f.message source
  | .tooLarge => "Compiled regex exceeds size limit of " ++ toString Room.limit ++ " bytes."

def parse (source : String) : Except Refusal Pattern :=
  match Node.parse source with
  | .error f => .error (.fault f)
  | .ok node =>
    match node.meaning {} with
    | .error f => .error (.fault f)
    | .ok (expr, _) => if expr.fits then .ok ⟨source, expr⟩ else .error .tooLarge

def occursIn (p : Pattern) (text : String) : Bool := p.expr.occursIn text

end Pattern

end CatalogRspec
