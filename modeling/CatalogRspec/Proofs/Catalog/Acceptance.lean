import Mathlib.Data.List.Forall2
import CatalogRspec.Proofs.Catalog.Schema
import CatalogRspec.Proofs.Log.Traced

namespace CatalogRspec

open Json

/-- The document declares the resource. Whatever else it says does not count. -/
def Resource.IsDeclaredBy (r : Resource) (v : Value) : Prop :=
  ∃ ms, v = .object ms ∧ r.type ≠ "" ∧
    Members.get? ms "type" = some (.string r.type) ∧
    Members.get? ms "title" = some (.string r.title) ∧
    (Members.get? ms "parameters" = some (.object r.parameters) ∨
      Members.get? ms "parameters" = none ∧ r.parameters = [])

/-- The document declares the resources of the catalog, each of them once and in their order. -/
def Catalog.IsDeclaredBy (c : Catalog) (v : Value) : Prop :=
  ∃ ms items, v = .object ms ∧ Members.get? ms "resources" = some (.array items) ∧
    List.Forall₂ Resource.IsDeclaredBy c.resources items

namespace Json.Value

/-- A type that is not empty, a title, and an object for the parameters if there are any. -/
def HasResourceShape (v : Value) : Prop :=
  ∃ ms, v = .object ms ∧
    (∃ type, Members.get? ms "type" = some (.string type) ∧ type ≠ "") ∧
    (∃ title, Members.get? ms "title" = some (.string title)) ∧
    ∀ p, Members.get? ms "parameters" = some p → ∃ parameters, p = .object parameters

def HasCatalogShape (v : Value) : Prop :=
  ∃ ms items, v = .object ms ∧ Members.get? ms "resources" = some (.array items) ∧
    ∀ item ∈ items, item.HasResourceShape

end Json.Value

namespace Schema

theorem admits_resource_iff (v : Value) : resource.Admits v ↔ v.HasResourceShape := by
  cases v with
  | object ms =>
    simp only [resource, Admits, Shape.Expected.admits, true_and, Value.HasResourceShape,
      Value.object.injEq, exists_eq_left']
    constructor
    · rintro ⟨⟨t, ht⟩, ⟨u, hu⟩, htype, htitle, hparameters⟩
      obtain ⟨type, rfl⟩ := Shape.exists_string_of_admits (htype t ht).1
      obtain ⟨title, rfl⟩ := Shape.exists_string_of_admits (htitle u hu)
      have hne : type ≠ "" := by
        have hlength : 1 ≤ type.length := (htype _ ht).2
        rintro rfl
        exact absurd hlength (by decide)
      refine ⟨⟨type, ht, hne⟩, ⟨title, hu⟩, fun p hp => ?_⟩
      exact Shape.exists_object_of_admits (hparameters p hp)
    · rintro ⟨⟨type, ht, hne⟩, ⟨title, hu⟩, hparameters⟩
      refine ⟨⟨_, ht⟩, ⟨_, hu⟩, fun t ht' => ?_, fun u hu' => ?_, fun p hp => ?_⟩
      · cases ht.symm.trans ht'
        refine ⟨rfl, ?_⟩
        rw [Admits, Shape.one_le_length_iff, Bool.eq_false_iff, ne_eq, String.isEmpty_iff]
        exact hne
      · cases hu.symm.trans hu'
        rfl
      · obtain ⟨parameters, rfl⟩ := hparameters p hp
        rfl
  | _ => simp [resource, Admits, Shape.Expected.admits, Value.HasResourceShape]

theorem admits_catalog_iff (v : Value) : catalog.Admits v ↔ v.HasCatalogShape := by
  cases v with
  | object ms =>
    simp only [catalog, Admits, Shape.Expected.admits, true_and, Value.HasCatalogShape,
      Value.object.injEq, exists_and_left, exists_eq_left', ← admits_resource_iff]
    cases Members.get? ms "resources" with
    | none => simp
    | some w =>
      cases w with
      | array items => simp [Admits]
      | _ => simp
  | _ => simp [catalog, Admits, Shape.Expected.admits, Value.HasCatalogShape]

end Schema

namespace Resource

theorem exists_isDeclaredBy_iff (v : Value) :
    (∃ r : Resource, r.IsDeclaredBy v) ↔ v.HasResourceShape := by
  constructor
  · rintro ⟨r, ms, rfl, hne, htype, htitle, hparameters⟩
    refine ⟨ms, rfl, ⟨r.type, htype, hne⟩, ⟨r.title, htitle⟩, fun p hp => ?_⟩
    rcases hparameters with h | ⟨h, -⟩
    · exact ⟨r.parameters, Option.some.inj (hp.symm.trans h)⟩
    · cases hp.symm.trans h
  · rintro ⟨ms, rfl, ⟨type, htype, hne⟩, ⟨title, htitle⟩, hparameters⟩
    cases hp : Members.get? ms "parameters" with
    | none => exact ⟨⟨type, title, []⟩, ms, rfl, hne, htype, htitle, .inr ⟨hp, rfl⟩⟩
    | some p =>
      obtain ⟨parameters, rfl⟩ := hparameters p hp
      exact ⟨⟨type, title, parameters⟩, ms, rfl, hne, htype, htitle, .inl hp⟩

theorem ofJson?_of_isDeclaredBy {r : Resource} {v : Value} (h : r.IsDeclaredBy v) :
    ofJson? v = some r := by
  obtain ⟨ms, rfl, -, htype, htitle, hparameters | ⟨hparameters, hnil⟩⟩ := h
  · simp [ofJson?, htype, htitle, hparameters]
  · simp [ofJson?, htype, htitle, hparameters, ← hnil]

theorem mapM_ofJson?_of_isDeclaredBy {rs : List Resource} {items : List Value}
    (h : List.Forall₂ IsDeclaredBy rs items) : items.mapM ofJson? = some rs := by
  induction h with
  | nil => rfl
  | cons hr _ ih => simp [List.mapM_cons, ofJson?_of_isDeclaredBy hr, ih]

theorem exists_forall₂_isDeclaredBy {items : List Value} (h : ∀ v ∈ items, v.HasResourceShape) :
    ∃ rs, List.Forall₂ IsDeclaredBy rs items := by
  induction items with
  | nil => exact ⟨[], .nil⟩
  | cons v rest ih =>
    obtain ⟨hv, hrest⟩ := List.forall_mem_cons.mp h
    obtain ⟨r, hr⟩ := (exists_isDeclaredBy_iff v).mpr hv
    obtain ⟨rs, hrs⟩ := ih hrest
    exact ⟨r :: rs, .cons hr hrs⟩

theorem hasResourceShape_of_forall₂ {rs : List Resource} {items : List Value}
    (h : List.Forall₂ IsDeclaredBy rs items) : ∀ v ∈ items, v.HasResourceShape := by
  induction h with
  | nil => exact fun v hv => absurd hv List.not_mem_nil
  | cons hr _ ih => exact List.forall_mem_cons.mpr ⟨(exists_isDeclaredBy_iff _).mp ⟨_, hr⟩, ih⟩

end Resource

namespace Catalog

theorem exists_isDeclaredBy_iff (v : Value) :
    (∃ c : Catalog, c.IsDeclaredBy v) ↔ v.HasCatalogShape := by
  constructor
  · rintro ⟨c, ms, items, rfl, hitems, hrs⟩
    exact ⟨ms, items, rfl, hitems, Resource.hasResourceShape_of_forall₂ hrs⟩
  · rintro ⟨ms, items, rfl, hitems, hshape⟩
    obtain ⟨rs, hrs⟩ := Resource.exists_forall₂_isDeclaredBy hshape
    exact ⟨⟨rs⟩, ms, items, rfl, hitems, hrs⟩

theorem ofJson?_of_isDeclaredBy {c : Catalog} {v : Value} (h : c.IsDeclaredBy v) :
    ofJson? v = some c := by
  obtain ⟨ms, items, rfl, hitems, hrs⟩ := h
  simp [ofJson?, Value.member?, hitems, Resource.mapM_ofJson?_of_isDeclaredBy hrs]

theorem ofJson?_of_no_violation {v : Value} (h : Shape.violations v = []) :
    ∃ c, ofJson? v = some c := by
  rw [Shape.violations_eq_nil_iff, Schema.admits_catalog_iff] at h
  obtain ⟨c, hc⟩ := (exists_isDeclaredBy_iff v).mpr h
  exact ⟨c, ofJson?_of_isDeclaredBy hc⟩

/-- Reading a document gives a catalog or tells what is wrong with its shape, and nothing else. -/
theorem ofDocument_eq_ok_or_shape (document : Value) :
    (∃ c, ofDocument document = .ok c) ∨
      ∃ vs, vs ≠ [] ∧ ofDocument document = .error (.shape vs) := by
  unfold ofDocument
  cases hv : Shape.violations (Envelope.unwrap document) with
  | nil =>
    obtain ⟨c, hc⟩ := ofJson?_of_no_violation hv
    exact .inl ⟨c, by simp [hc]⟩
  | cons v vs => exact .inr ⟨v :: vs, by simp, rfl⟩

/-- A document gives the catalog that it declares once its envelope is gone. -/
theorem ofDocument_eq_ok_iff (document : Value) (c : Catalog) :
    ofDocument document = .ok c ↔ c.IsDeclaredBy (Envelope.unwrap document) := by
  unfold ofDocument
  cases hv : Shape.violations (Envelope.unwrap document) with
  | nil =>
    rw [Shape.violations_eq_nil_iff, Schema.admits_catalog_iff] at hv
    obtain ⟨d, hd⟩ := (exists_isDeclaredBy_iff _).mpr hv
    simp only [ofJson?_of_isDeclaredBy hd, Except.ok.injEq]
    constructor
    · rintro rfl
      exact hd
    · intro hc
      exact Option.some.inj ((ofJson?_of_isDeclaredBy hd).symm.trans (ofJson?_of_isDeclaredBy hc))
  | cons violation rest =>
    have hshape : ¬(Envelope.unwrap document).HasCatalogShape := by
      rw [← Schema.admits_catalog_iff, ← Shape.violations_eq_nil_iff, hv]
      exact List.cons_ne_nil _ _
    simp only [reduceCtorEq, false_iff]
    exact fun hc => hshape ((exists_isDeclaredBy_iff _).mp ⟨c, hc⟩)

theorem outcome_parse {text : String} {document : Value} (h : Value.parse text = .ok document) :
    (parse text).outcome = ofDocument document := by
  simp only [parse, h, Traced.outcome_bind, Traced.outcome_ofExcept, Traced.outcome_report,
    Traced.outcome_pure]
  show (ofDocument document >>= fun c => .ok c) = ofDocument document
  cases ofDocument document <;> rfl

/-- A JSON text is a catalog if its document, out of its envelope, has the shape of one, and then
it is the catalog that the document declares; otherwise it is refused for its shape. The schema
admits the same documents, and what it admits can be read. -/
theorem parse_declared (text : String) (document : Value)
    (h : Value.parse text = .ok document) :
    (∀ c, (parse text).outcome = .ok c ↔ c.IsDeclaredBy (Envelope.unwrap document)) ∧
    ((∃ c, (parse text).outcome = .ok c) ↔ (Envelope.unwrap document).HasCatalogShape) ∧
    (∀ e, (parse text).outcome = .error e → ∃ vs, vs ≠ [] ∧ e = .shape vs) ∧
    (∀ v, Shape.violations v = [] ↔ Schema.catalog.Admits v) ∧
    ∀ v, Shape.violations v = [] → ∃ c, ofJson? v = some c := by
  rw [outcome_parse h]
  refine ⟨ofDocument_eq_ok_iff document, ?_, ?_, Shape.violations_eq_nil_iff, ?_⟩
  · simp only [ofDocument_eq_ok_iff, exists_isDeclaredBy_iff]
  · intro e he
    rcases ofDocument_eq_ok_or_shape document with ⟨c, hc⟩ | ⟨vs, hvs, hshape⟩
    · cases he.symm.trans hc
    · exact ⟨vs, hvs, Except.error.inj (he.symm.trans hshape)⟩
  · exact fun v hv => ofJson?_of_no_violation hv

theorem parse_declared_in_envelope :
    let text := "\x7b\"data\":\x7b\"resources\":[" ++
      "\x7b\"type\":\"A\",\"title\":\"\",\"parameters\":\x7b\"b\":0\x7d\x7d," ++
      "\x7b\"title\":\"a\",\"type\":\"A\"\x7d]\x7d\x7d"
    let parameters : Members := [("b", .number (.integer 0))]
    let first : Value := .object [("type", .string "A"), ("title", .string ""),
      ("parameters", .object parameters)]
    let second : Value := .object [("title", .string "a"), ("type", .string "A")]
    let document : Value := .object [("data", .object [("resources", .array [first, second])])]
    Value.parse text = .ok document ∧
      (parse text).outcome = .ok ⟨[⟨"A", "", parameters⟩, ⟨"A", "a", []⟩]⟩ := by
  intro text parameters first second document
  have hparse : Value.parse text = .ok document := by
    unfold Value.parse text
    rw [String.toList_append, String.toList_append]
    rfl
  refine ⟨hparse, ((parse_declared text document hparse).1 _).mpr ?_⟩
  refine ⟨_, [first, second], rfl, rfl, .cons ?_ (.cons ?_ .nil)⟩
  · exact ⟨_, rfl, by decide, rfl, rfl, .inl rfl⟩
  · exact ⟨_, rfl, by decide, rfl, rfl, .inr ⟨rfl, rfl⟩⟩

end Catalog

end CatalogRspec
