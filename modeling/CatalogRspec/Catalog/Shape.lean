import CatalogRspec.Json.Compact

namespace CatalogRspec.Shape

open Json

inductive Expected where
  | object
  | array
  | string
deriving Repr, DecidableEq

def Expected.name : Expected → String
  | .object => "object"
  | .array => "array"
  | .string => "string"

def Expected.admits : Expected → Value → Bool
  | .object, .object _ => true
  | .array, .array _ => true
  | .string, .string _ => true
  | _, _ => false

/-- The part of a document that a violation is about. -/
inductive Place where
  | document
  | resources
  | resource (index : Nat)
  | member (index : Nat) (name : String)
deriving Repr, DecidableEq

def Place.pointer : Place → String
  | .document => ""
  | .resources => "/resources"
  | .resource i => "/resources/" ++ toString i
  | .member i name => "/resources/" ++ toString i ++ "/" ++ name

inductive Problem where
  | missing (name : String)
  | mismatch (value : Value) (expected : Expected)
  | empty

structure Violation where
  place : Place
  problem : Problem

def Problem.message : Problem → String
  | .missing name => quoted name ++ " is a required property"
  | .mismatch v expected => v.compact ++ " is not of type " ++ quoted expected.name
  | .empty => "\"\" is shorter than 1 character"

def Violation.message (v : Violation) : String :=
  match v.place with
  | .document => v.problem.message
  | p => p.pointer ++ ": " ++ v.problem.message

def checkType (place : Place) (expected : Expected) : Option Value → List Violation
  | none => []
  | some v => if expected.admits v then [] else [⟨place, .mismatch v expected⟩]

def checkPresent (place : Place) (members : Members) (name : String) : List Violation :=
  if Members.contains members name then [] else [⟨place, .missing name⟩]

def checkResourceType (index : Nat) (members : Members) : List Violation :=
  let place := Place.member index "type"
  match Members.get? members "type" with
  | some (.string s) => if s.isEmpty then [⟨place, .empty⟩] else []
  | v => checkType place .string v

def checkResource (index : Nat) : Value → List Violation
  | .object members =>
    checkPresent (.resource index) members "type" ++
    checkPresent (.resource index) members "title" ++
    checkResourceType index members ++
    checkType (.member index "title") .string (Members.get? members "title") ++
    checkType (.member index "parameters") .object (Members.get? members "parameters")
  | v => [⟨.resource index, .mismatch v .object⟩]

def checkResources (start : Nat) : List Value → List Violation
  | [] => []
  | v :: rest => checkResource start v ++ checkResources (start + 1) rest

def violations : Value → List Violation
  | .object members =>
    match Members.get? members "resources" with
    | none => [⟨.document, .missing "resources"⟩]
    | some (.array items) => checkResources 0 items
    | some v => [⟨.resources, .mismatch v .array⟩]
  | v => [⟨.document, .mismatch v .object⟩]

end CatalogRspec.Shape
