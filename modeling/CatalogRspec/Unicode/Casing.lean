import CatalogRspec.Unicode.CaseRun
import CatalogRspec.Unicode.Revision

namespace CatalogRspec.Unicode

def shiftBy (runs : List CaseRun) (n : Nat) : Nat :=
  match runs.find? (·.contains n) with
  | some r => (n + r.shift).toNat
  | none => n

/-- The lower-case form of one character, which is longer than one only for a dotted capital I. -/
def lowerChar (c : Char) : List Char :=
  if c.toNat = 0x130 then ['i', Char.ofNat 0x307]
  else [Char.ofNat (shiftBy lowercaseRuns c.toNat)]

def upperChar (c : Char) : List Char :=
  match uppercaseExpansions.lookup c.toNat with
  | some ns => ns.map Char.ofNat
  | none => [Char.ofNat (shiftBy uppercaseRuns c.toNat)]

/-- Whether the first character that matters for case is a cased one. -/
def startsCased (s : List Char) : Bool :=
  match s.dropWhile fun c => caseIgnorableSet.contains c.toNat with
  | c :: _ => casedSet.contains c.toNat
  | [] => false

def capitalSigma : Char := Char.ofNat 0x3A3

/-- A capital sigma ends a word if a cased character stands before it and none after it. -/
def lowerSigma (before after : List Char) : Char :=
  if startsCased before && !startsCased after then Char.ofNat 0x3C2 else Char.ofNat 0x3C3

/-- Lower-cases a text; `before` holds what precedes it, the nearest character first. -/
def lowerFrom (before : List Char) : List Char → List Char
  | [] => []
  | c :: s =>
    (if c = capitalSigma then [lowerSigma before s] else lowerChar c) ++ lowerFrom (c :: before) s

def lowercase (s : String) : String := String.ofList (lowerFrom [] s.toList)

/-- The first character in upper case and each other one in lower case, whatever stands around it. -/
def capitalize : List Char → List Char
  | [] => []
  | c :: s => upperChar c ++ s.flatMap lowerChar

end CatalogRspec.Unicode
