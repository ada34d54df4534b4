import CatalogRspec.Pattern.Node
import CatalogRspec.Text.Replace
import CatalogRspec.Unicode.Age
import CatalogRspec.Unicode.BinaryProperty
import CatalogRspec.Unicode.CaseFolding
import CatalogRspec.Unicode.GeneralCategory
import CatalogRspec.Unicode.GraphemeBreak
import CatalogRspec.Unicode.Script
import CatalogRspec.Unicode.SentenceBreak
import CatalogRspec.Unicode.WordBreak

namespace CatalogRspec.Pattern

open Unicode

def between (first last : Char) : Nat × Nat := (first.toNat, last.toNat)

def posixClass : String → RangeSet
  | "alnum" => [between '0' '9', between 'A' 'Z', between 'a' 'z']
  | "alpha" => [between 'A' 'Z', between 'a' 'z']
  | "ascii" => [(0, 0x7F)]
  | "blank" => [(9, 9), (0x20, 0x20)]
  | "cntrl" => [(0, 0x1F), (0x7F, 0x7F)]
  | "digit" => [between '0' '9']
  | "graph" => [between '!' '~']
  | "lower" => [between 'a' 'z']
  | "print" => [between ' ' '~']
  | "punct" => [between '!' '/', between ':' '@', (0x5B, 0x60), (0x7B, 0x7E)]
  | "space" => [(9, 13), (0x20, 0x20)]
  | "upper" => [between 'A' 'Z']
  | "word" => [between '0' '9', between 'A' 'Z', between '_' '_', between 'a' 'z']
  | "xdigit" => [between '0' '9', between 'A' 'F', between 'a' 'f']
  | _ => []

def PerlClass.ascii : PerlClass → RangeSet
  | .digit => posixClass "digit"
  | .space => posixClass "space"
  | .word => posixClass "word"

def known (name : String) : RangeSet :=
  ((NamedSet.find? generalCategories name).orElse fun _ =>
    NamedSet.find? binaryProperties name).getD []

def wordSet : RangeSet :=
  RangeSet.ofRanges (["alphabetic", "mn", "mc", "me", "nd", "pc", "joincontrol"].flatMap known)

def PerlClass.unicode : PerlClass → RangeSet
  | .digit => known "nd"
  | .space => known "whitespace"
  | .word => wordSet

/-- Names are compared in lower case, without blanks and separators and without a leading `is`. -/
def looseName (name : String) : String :=
  let hasLead := (name.toList.take 2).map Char.toLower == ['i', 's']
  let body := if hasLead then name.toList.drop 2 else name.toList
  let kept := body.filter fun c =>
    !(c == ' ' || c == '_' || c == '-') && c.toNat < 0x80
  let loose := String.ofList (kept.map Char.toLower)
  -- `isc` is a property of its own, and no name for what `c` means.
  if hasLead && loose == "c" then "isc" else loose

def generalCategory? (name : String) : Option RangeSet :=
  match name with
  | "any" => some RangeSet.all
  | "ascii" => some [(0, 0x7F)]
  | _ =>
    let assigned := RangeSet.ofRanges (generalCategories.flatMap NamedSet.toRangeSet)
    match name with
    | "assigned" => some assigned
    | "cn" | "unassigned" => some (assigned ++ [(0xD800, 0xDFFF)] |> RangeSet.ofRanges).complement
    | "c" | "other" =>
      some (RangeSet.union (RangeSet.complement assigned)
        (RangeSet.ofRanges (["cc", "cf", "co"].flatMap known)))
    | _ =>
      match categoryGroups.find? (·.1.contains name) with
      | some (_, parts) => some (RangeSet.ofRanges (parts.flatMap known))
      | none => NamedSet.find? generalCategories name

def script? (name : String) : Option RangeSet := NamedSet.find? scripts name

def scriptExtension? (name : String) : Option RangeSet :=
  (NamedSet.find? scriptExtensions name).orElse fun _ => script? name

/-- Why a query asks for no set of characters. -/
inductive Unresolved where
  | name
  | value
deriving Repr, DecidableEq

def orElse (found : Option RangeSet) (why : Unresolved) : Except Unresolved RangeSet :=
  match found with
  | some s => .ok s
  | none => .error why

def isProperty (name : String) : Bool :=
  (NamedSet.find? binaryProperties name).isSome || valuedProperties.contains name

/-- The short names `cf`, `sc` and `lc` are those of categories before they are those of properties. -/
def isCategoryFirst (name : String) : Bool := name == "cf" || name == "sc" || name == "lc"

/-- A name alone stands for a property, and if there is none for a category or a script. -/
def resolveName (name : String) : Except Unresolved RangeSet :=
  if isProperty name && !isCategoryFirst name then
    orElse (NamedSet.find? binaryProperties name) .name
  else orElse ((generalCategory? name).orElse fun _ => script? name) .value

/-- The properties whose values are sets of characters. -/
inductive ValuedProperty where
  | category
  | script
  | scriptExtensions
  | age
  | graphemeBreak
  | wordBreak
  | sentenceBreak
deriving Repr, DecidableEq

def ValuedProperty.ofName? : String → Option ValuedProperty
  | "generalcategory" | "gc" => some .category
  | "script" | "sc" => some .script
  | "scriptextensions" | "scx" => some .scriptExtensions
  | "age" => some .age
  | "graphemeclusterbreak" | "gcb" => some .graphemeBreak
  | "wordbreak" | "wb" => some .wordBreak
  | "sentencebreak" | "sb" => some .sentenceBreak
  | _ => none

def ValuedProperty.set? (p : ValuedProperty) (value : String) : Option RangeSet :=
  match p with
  | .category => generalCategory? value
  | .script => script? value
  | .scriptExtensions => scriptExtension? value
  | .age => upToAge? value
  | .graphemeBreak => NamedSet.find? graphemeBreaks value
  | .wordBreak => NamedSet.find? wordBreaks value
  | .sentenceBreak => NamedSet.find? sentenceBreaks value

def resolveValue (name value : String) : Except Unresolved RangeSet :=
  if isProperty name then orElse ((ValuedProperty.ofName? name).bind (·.set? value)) .value
  else .error .name

def PropertyQuery.resolve : PropertyQuery → Except Unresolved RangeSet
  | .named name => resolveName (looseName name)
  | .valued name value => resolveValue (looseName name) (looseName value)

/-- Every character that differs in case from an earlier one, with the first of its kind. -/
def foldingPairs : List (Nat × Nat) :=
  foldingRuns.flatMap fun r =>
    (List.range ((r.last - r.first) / r.step + 1)).map fun i =>
      let n := r.first + i * r.step
      (n, ((n : Int) + r.shift).toNat)

/-- The set with every character that differs only in case from one of its own. -/
def closeUnderCase (s : RangeSet) : RangeSet :=
  let kinds := (foldingPairs.filter fun p => s.contains p.1 || s.contains p.2).map (·.2)
  let added := foldingPairs.filter fun p => kinds.contains p.2
  RangeSet.ofRanges (s ++ added.flatMap fun p => [(p.1, p.1), (p.2, p.2)])

def closeUnderAsciiCase (s : RangeSet) : RangeSet :=
  let letters := RangeSet.inter s (posixClass "alpha")
  let upper := (RangeSet.inter letters (posixClass "upper")).map fun r => (r.1 + 32, r.2 + 32)
  let lower := (RangeSet.inter letters (posixClass "lower")).map fun r => (r.1 - 32, r.2 - 32)
  RangeSet.ofRanges (s ++ upper ++ lower)

end CatalogRspec.Pattern
