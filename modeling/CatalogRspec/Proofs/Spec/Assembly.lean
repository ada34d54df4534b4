import CatalogRspec.Spec.Expectation
import CatalogRspec.Spec.Text

namespace CatalogRspec

def Resource.unusable? (r : Resource) : Option UnusableContent :=
  match r.content with
  | .unusable v => some ⟨r.reference, v⟩
  | _ => none

def Resource.check? (o : Options) (rules : EscapeRules) (r : Resource) : Option ContentCheck :=
  match r.content with
  | .text s => some (.ofText o rules s)
  | _ => none

namespace Example

/-- The example for a resource where nothing is refused. -/
def lenient (o : Options) (rules : EscapeRules) (r : Resource) : Example :=
  ⟨r.type, r.title, r.expectations, r.check? o rules⟩

theorem ofResource_eq (o : Options) (rules : EscapeRules) (r : Resource) :
    ofResource o rules r =
      match if o.strictContent then r.unusable? else none with
      | some e => .error e
      | none => .ok (lenient o rules r) := by
  unfold ofResource lenient Resource.unusable? Resource.check?
  cases hc : r.content <;> cases hs : o.strictContent <;> rfl

end Example

/-- The first of the resources whose content is refused. -/
def Spec.refused? (o : Options) (rs : List Resource) : Option UnusableContent :=
  if o.strictContent then rs.findSome? Resource.unusable? else none

theorem Spec.refused?_cons (o : Options) (r : Resource) (rs : List Resource) :
    refused? o (r :: rs) =
      match if o.strictContent then r.unusable? else none with
      | some e => some e
      | none => refused? o rs := by
  unfold refused?
  cases o.strictContent
  · rfl
  · simp only [List.findSome?_cons, if_true]
    cases r.unusable? <;> rfl

theorem Spec.exists_refused?_iff (o : Options) (rs : List Resource) :
    (∃ e, refused? o rs = some e) ↔
      o.strictContent = true ∧ ∃ r ∈ rs, r.unusable?.isSome = true := by
  rw [← Option.isSome_iff_exists]
  unfold refused?
  cases o.strictContent <;> simp [List.findSome?_isSome_iff]

theorem Example.mapM_ofResource (o : Options) (rules : EscapeRules) (rs : List Resource) :
    rs.mapM (ofResource o rules) =
      match Spec.refused? o rs with
      | some e => .error e
      | none => .ok (rs.map (lenient o rules)) := by
  induction rs with
  | nil => cases hs : o.strictContent <;> simp [Spec.refused?, hs] <;> rfl
  | cons r rs ih =>
    rw [List.mapM_cons, ih, ofResource_eq, Spec.refused?_cons]
    cases (if o.strictContent then r.unusable? else none) with
    | some e => rfl
    | none => cases Spec.refused? o rs <;> rfl

namespace Spec

/-- The spec for resources of which none is refused. -/
def lenient (o : Options) (rules : EscapeRules) (root : RootClass) (rs : List Resource) : Spec :=
  ⟨root.nameOrBlank, root.params, o.md5sums, rs.map (Example.lenient o rules),
    o.onlyInclude.isEmpty⟩

theorem ofResources_eq (o : Options) (rules : EscapeRules) (root : RootClass)
    (rs : List Resource) :
    ofResources o rules root rs =
      match refused? o rs with
      | some e => .error e
      | none => .ok (lenient o rules root rs) := by
  unfold ofResources
  rw [Example.mapM_ofResource]
  cases refused? o rs <;> rfl

end Spec

end CatalogRspec
