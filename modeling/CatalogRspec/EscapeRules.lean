import CatalogRspec.Text.Replace

namespace CatalogRspec

structure EscapeRule where
  pattern : String
  replacement : String
deriving Repr, DecidableEq

abbrev EscapeRules := List EscapeRule

namespace EscapeRules

/-- The last rule is for a directive of log daemons that would read as a global variable. -/
def standard : EscapeRules := [
  ⟨"\\", "\\\\"⟩,
  ⟨"\"", "\\\""⟩,
  ⟨"@", "\\@"⟩,
  ⟨"$;", "\\$;"⟩,
  ⟨"$EscapeControlCharactersOnReceive", "\\$EscapeControlCharactersOnReceive"⟩]

/-- A rule that runs behind all others. -/
def push (rules : EscapeRules) (rule : EscapeRule) : EscapeRules := rules ++ [rule]

/-- The rules run one after the other over the whole text, so each sees what the ones before it wrote.
Those without a pattern do nothing. -/
def apply (rules : EscapeRules) (text : String) : String :=
  rules.foldl (fun s r => Text.replace r.pattern r.replacement s) text

end EscapeRules

end CatalogRspec
