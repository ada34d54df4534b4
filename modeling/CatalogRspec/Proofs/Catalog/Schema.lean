import CatalogRspec.Catalog.Text
import CatalogRspec.Proofs.Json.Members

namespace CatalogRspec

open Json

/-- The keywords of JSON schemas that catalogs need, each of them alone or two together. -/
inductive Schema where
  | type (expected : Shape.Expected)
  | required (name : String)
  | minLength (least : Nat)
  | property (name : String) (s : Schema)
  | items (s : Schema)
  | and (s t : Schema)

namespace Schema

def Admits : Schema → Value → Prop
  | .type expected, v => expected.admits v = true
  | .required name, .object ms => ∃ v, Members.get? ms name = some v
  | .minLength least, .string s => least ≤ s.length
  | .property name s, .object ms => ∀ v, Members.get? ms name = some v → s.Admits v
  | .items s, .array values => ∀ v ∈ values, s.Admits v
  | .and s t, v => s.Admits v ∧ t.Admits v
  | _, _ => True

def resource : Schema :=
  (type .object).and <| (required "type").and <| (required "title").and <|
    (property "type" ((type .string).and (minLength 1))).and <|
      (property "title" (type .string)).and (property "parameters" (type .object))

def catalog : Schema :=
  (type .object).and <| (required "resources").and <|
    property "resources" ((type .array).and (items resource))

end Schema

namespace Shape

theorem checkType_eq_nil_iff (place : Place) (expected : Expected) (v : Option Value) :
    checkType place expected v = [] ↔ ∀ w, v = some w → expected.admits w = true := by
  cases v with
  | none => simp [checkType]
  | some w => cases h : expected.admits w <;> simp [checkType, h]

theorem checkPresent_eq_nil_iff (place : Place) (ms : Members) (name : String) :
    checkPresent place ms name = [] ↔ ∃ v, Members.get? ms name = some v := by
  rw [← Option.isSome_iff_exists, ← Members.contains_eq_isSome]
  cases h : Members.contains ms name <;> simp [checkPresent, h]

theorem exists_string_of_admits {v : Value} (h : Expected.string.admits v = true) :
    ∃ s, v = .string s := by
  cases v with
  | string s => exact ⟨s, rfl⟩
  | _ => cases h

theorem exists_object_of_admits {v : Value} (h : Expected.object.admits v = true) :
    ∃ ms, v = .object ms := by
  cases v with
  | object ms => exact ⟨ms, rfl⟩
  | _ => cases h

theorem one_le_length_iff (s : String) : 1 ≤ s.length ↔ s.isEmpty = false := by
  rw [Nat.one_le_iff_ne_zero, ← String.length_toList, ne_eq, List.length_eq_zero_iff,
    String.toList_eq_nil_iff, Bool.eq_false_iff, ne_eq, String.isEmpty_iff]

theorem checkResourceType_eq_nil_iff (index : Nat) (ms : Members) :
    checkResourceType index ms = [] ↔
      (Schema.property "type" ((Schema.type .string).and (.minLength 1))).Admits (.object ms) := by
  unfold checkResourceType
  simp only [Schema.Admits]
  cases Members.get? ms "type" with
  | none => simp [checkType]
  | some v =>
    cases v with
    | string s =>
      simp only [Option.some.injEq, forall_eq', Schema.Admits, one_le_length_iff]
      cases s.isEmpty <;> simp [Expected.admits]
    | _ => simp [checkType, Expected.admits]

theorem checkResource_eq_nil_iff (index : Nat) (v : Value) :
    checkResource index v = [] ↔ Schema.resource.Admits v := by
  cases v with
  | object ms =>
    have htype := checkResourceType_eq_nil_iff index ms
    simp only [Schema.Admits] at htype
    simp only [checkResource, Schema.resource, Schema.Admits, List.append_eq_nil_iff,
      checkPresent_eq_nil_iff, checkType_eq_nil_iff, htype, and_assoc, Expected.admits, true_and]
  | _ => simp [checkResource, Schema.resource, Schema.Admits, Expected.admits]

theorem checkResources_eq_nil_iff (start : Nat) (items : List Value) :
    checkResources start items = [] ↔ ∀ v ∈ items, Schema.resource.Admits v := by
  induction items generalizing start with
  | nil => simp [checkResources]
  | cons v rest ih =>
    rw [checkResources, List.append_eq_nil_iff, checkResource_eq_nil_iff, ih, List.forall_mem_cons]

theorem violations_eq_nil_iff (v : Value) : violations v = [] ↔ Schema.catalog.Admits v := by
  cases v with
  | object ms =>
    simp only [violations, Schema.catalog, Schema.Admits, Expected.admits, true_and]
    cases hr : Members.get? ms "resources" with
    | none => simp
    | some w =>
      cases w with
      | array items => simp [checkResources_eq_nil_iff, Schema.Admits]
      | _ => simp
  | _ => simp [violations, Schema.catalog, Schema.Admits, Expected.admits]

end Shape

end CatalogRspec
