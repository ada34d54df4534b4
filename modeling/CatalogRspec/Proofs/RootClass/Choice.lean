import CatalogRspec.Generator
import CatalogRspec.Proofs.RootClass.Naming

namespace CatalogRspec

open Unicode

/-- The first class behind `main` that is not titled `main` itself. -/
def classAfterMain? (rs : List Resource) : Option Resource :=
  ((rs.filter (·.isType classType)).dropWhile (·.title != "main")).find? (·.title != "main")

def Resource.IsClassTitled (r : Resource) (title : String) : Prop :=
  r.isType classType = true ∧ r.title = title

instance (r : Resource) (title : String) : Decidable (r.IsClassTitled title) :=
  inferInstanceAs (Decidable (_ ∧ _))

variable {rs : List Resource} {picked : Resource}

theorem titleAfterMain?_eq (rs : List Resource) :
    titleAfterMain? rs = (classAfterMain? rs).map (·.title) := by
  rw [titleAfterMain?, classTitles, classAfterMain?, List.dropWhile_map, List.find?_map]
  rfl

theorem isType_of_classAfterMain (h : classAfterMain? rs = some picked) :
    picked ∈ rs ∧ picked.isType classType = true := by
  have hdropped := List.mem_of_find?_eq_some h
  have hfiltered := (List.dropWhile_sublist _).mem hdropped
  exact List.mem_filter.mp hfiltered

theorem exists_first_titled {title : String} (h : ∃ r ∈ rs, r.IsClassTitled title) :
    ∃ before r after, rs = before ++ r :: after ∧ r.IsClassTitled title ∧
      ∀ q ∈ before, ¬q.IsClassTitled title := by
  induction rs with
  | nil => simp at h
  | cons r rs ih =>
    by_cases hr : r.IsClassTitled title
    · exact ⟨[], r, rs, rfl, hr, by simp⟩
    · obtain ⟨before, q, after, rfl, hq, hbefore⟩ := ih (by simpa [hr] using h)
      exact ⟨r :: before, q, after, rfl, hq, List.forall_mem_cons.mpr ⟨hr, hbefore⟩⟩

theorem classParams?_lowercase {title : String} (htitle : IsClassTitle title)
    (h : ∃ r ∈ rs, r.IsClassTitled title) :
    ∃ before r after, rs = before ++ r :: after ∧ r.IsClassTitled title ∧
      (∀ q ∈ before, ¬q.IsClassTitled title) ∧
      classParams? rs (lowercase title) = some r.parameters := by
  have hsearch (q : Resource) : (q.isType classType && q.title == title) = true ↔
      q.IsClassTitled title := by
    simp [Resource.IsClassTitled]
  obtain ⟨before, r, after, rfl, hr, hbefore⟩ := exists_first_titled h
  refine ⟨before, r, after, rfl, hr, hbefore, ?_⟩
  have hfirst : (before ++ r :: after).find? (fun q => q.isType classType && q.title == title) =
      some r := by
    refine List.find?_eq_some_iff_append.mpr
      ⟨(hsearch r).mpr hr, before, after, rfl, fun q hq => ?_⟩
    rw [Bool.not_eq_true', Bool.eq_false_iff, ne_eq, hsearch]
    exact hbefore q hq
  rw [classParams?, capitalizeClassName_lowercase htitle, hfirst]
  rfl

namespace RootClass

theorem resolve_inferred (h : classAfterMain? rs = some picked) :
    resolve .inferred rs =
      ⟨some (lowercase picked.title), classParams? rs (lowercase picked.title)⟩ := by
  have hname : ClassChoice.inferred.resolve? rs = some (lowercase picked.title) := by
    rw [ClassChoice.resolve?, titleAfterMain?_eq, h]
    rfl
  rw [resolve, hname]

theorem resolve_named (name : String) (rs : List Resource) :
    resolve (.named name) rs = ⟨some (lowercase name), classParams? rs (lowercase name)⟩ := rfl

/-- The class that would be inferred may be named by its title or by its name. -/
theorem resolve_named_of_classAfterMain (h : classAfterMain? rs = some picked) {name : String}
    (hname : name = lowercase picked.title ∨ name = picked.title) :
    resolve (.named name) rs = resolve .inferred rs := by
  have hlower : lowercase name = lowercase picked.title := by
    rcases hname with rfl | rfl
    · exact lowercase_lowercase picked.title
    · rfl
  rw [resolve_named, hlower, resolve_inferred h]

end RootClass

namespace Generator

variable (g : Generator) {choice choice' : ClassChoice} {c : Catalog}
  (h : RootClass.resolve choice c.resources = RootClass.resolve choice' c.resources)

include h

/-- The choice of the class counts only as far as it is the class. -/
theorem select_congr_choice :
    ({ g with choice := choice } : Generator).select c =
      ({ g with choice := choice' } : Generator).select c := by
  unfold select
  rw [h]

theorem generate_congr_choice :
    ({ g with choice := choice } : Generator).generate c =
      ({ g with choice := choice' } : Generator).generate c := by
  unfold generate
  rw [g.select_congr_choice h]
  rfl

theorem generateBounded_congr_choice :
    ({ g with choice := choice } : Generator).generateBounded c =
      ({ g with choice := choice' } : Generator).generateBounded c := by
  unfold generateBounded
  rw [g.select_congr_choice h]
  rfl

end Generator

end CatalogRspec
