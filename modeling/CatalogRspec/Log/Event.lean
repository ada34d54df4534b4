import CatalogRspec.Text.Digit

namespace CatalogRspec

inductive Level where
  | debug
  | info
  | warn
deriving Repr, DecidableEq

namespace Level

def name : Level → String
  | .debug => "DEBUG"
  | .info => "INFO"
  | .warn => "WARN"

def column : Level → String
  | .debug => "DEBUG"
  | .info => " INFO"
  | .warn => " WARN"

end Level

inductive Event where
  | envelopeUnwrapped
  | catalogParsed (resources : Nat)
  | classNotInferred
  | classNotFound (name title : String)
  | classResolved (name : String)
  | referenceIgnored (reference : String)
  | resourcesFiltered (kept dropped : Nat)
  | contentSkipped (reference : String)
  | configMissing (path : String)
  | specWritten (path : String) (bytes : Nat)
deriving Repr, DecidableEq

namespace Event

def level : Event → Level
  | .classNotInferred | .classNotFound _ _ | .contentSkipped _ => .warn
  | .specWritten _ _ => .info
  | _ => .debug

def message : Event → String
  | .envelopeUnwrapped => "unwrapping v3 catalog envelope"
  | .catalogParsed _ => "catalog parsed"
  | .classNotInferred => "could not infer the compiled class; class name will be blank"
  | .classNotFound _ title => "no Class resource titled " ++ title ++ "; omitting params"
  | .classResolved _ => "resolved root class"
  | .referenceIgnored _ => "ignoring malformed only-include reference"
  | .resourcesFiltered _ _ => "filtered resources"
  | .contentSkipped _ => "content is not a string; skipping content check"
  | .configMissing _ => "no config file; using defaults"
  | .specWritten _ _ => "spec written"

def fields : Event → List (String × String)
  | .envelopeUnwrapped | .classNotInferred => []
  | .catalogParsed resources => [("resources", toString resources)]
  | .classNotFound name _ | .classResolved name => [("class", name)]
  | .referenceIgnored reference => [("reference", reference)]
  | .resourcesFiltered kept dropped => [("kept", toString kept), ("dropped", toString dropped)]
  | .contentSkipped reference => [("resource", reference)]
  | .configMissing path => [("path", path)]
  | .specWritten path bytes => [("path", path), ("bytes", toString bytes)]

def maskChar (c : Char) : List Char :=
  if [0x07, 0x08, 0x0C, 0x1B, 0x7F].contains c.toNat then
    ['\\', 'x'] ++ Text.lowerHex 2 c.toNat
  else if 0x80 ≤ c.toNat ∧ c.toNat ≤ 0x9F then
    ['\\', 'u', '{'] ++ Text.lowerHex 2 c.toNat ++ ['}']
  else [c]

def text (e : Event) : String :=
  String.ofList (e.message.toList.flatMap maskChar) ++
    String.join (e.fields.map fun (name, value) => " " ++ name ++ "=" ++ value)

def line (e : Event) : String := e.level.name ++ " " ++ e.text

def terminalLine (e : Event) : String := e.level.column ++ " " ++ e.text

end Event

/-- How much of the log is shown. -/
structure Verbosity where
  count : Nat

namespace Verbosity

def shows (v : Verbosity) : Level → Bool
  | .warn => true
  | .info => 1 ≤ v.count
  | .debug => 2 ≤ v.count

def log (v : Verbosity) (events : List Event) : String :=
  String.join ((events.filter fun e => v.shows e.level).map (·.terminalLine ++ "\n"))

end Verbosity

end CatalogRspec
