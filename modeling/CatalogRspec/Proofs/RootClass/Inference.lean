import CatalogRspec.Proofs.RootClass.Choice
import Mathlib.Logic.Relation

namespace CatalogRspec

namespace Resource

def IsOtherClass (r : Resource) : Prop := r.isType classType = true ∧ r.title ≠ "main"

instance (r : Resource) : Decidable r.IsOtherClass := inferInstanceAs (Decidable (_ ∧ _))

theorem IsClassTitled.not_isOtherClass {r : Resource} (h : r.IsClassTitled "main") :
    ¬r.IsOtherClass := fun hother => hother.2 h.2

end Resource

open Resource

variable {rs : List Resource} {m : Resource}

theorem classAfterMain?_eq (rs : List Resource) :
    classAfterMain? rs =
      (rs.dropWhile fun r => !decide (r.IsClassTitled "main")).find? fun r =>
        decide r.IsOtherClass := by
  rw [classAfterMain?, List.dropWhile_filter, List.find?_filter]
  have hmain : (fun r : Resource => !r.isType classType || r.title != "main") =
      fun r => !decide (r.IsClassTitled "main") := by
    funext r
    rw [Bool.eq_iff_iff, Bool.not_eq_true', decide_eq_false_iff_not, IsClassTitled, not_and_or]
    simp
  have hother : (fun r : Resource => decide (r.isType classType = true ∧
      (r.title != "main") = true)) = fun r => decide r.IsOtherClass := by
    funext r
    rw [Bool.eq_iff_iff, decide_eq_true_iff, decide_eq_true_iff, IsOtherClass, bne_iff_ne]
  rw [hmain, hother]

theorem classAfterMain?_cons (r : Resource) (rs : List Resource) :
    classAfterMain? (r :: rs) =
      if r.IsClassTitled "main" then rs.find? fun q => decide q.IsOtherClass
      else classAfterMain? rs := by
  rw [classAfterMain?_eq, classAfterMain?_eq]
  split
  · next h =>
    rw [List.dropWhile_cons_of_neg (by simp [h]), List.find?_cons_of_neg]
    simpa using h.not_isOtherClass
  · next h => rw [List.dropWhile_cons_of_pos (by simp [h])]

theorem classAfterMain?_append_of_no_main {before : List Resource}
    (h : ∀ q ∈ before, ¬q.IsClassTitled "main") (rs : List Resource) :
    classAfterMain? (before ++ rs) = classAfterMain? rs := by
  induction before with
  | nil => rfl
  | cons q before ih =>
    obtain ⟨hq, hbefore⟩ := List.forall_mem_cons.mp h
    rw [List.cons_append, classAfterMain?_cons, if_neg hq, ih hbefore]

/-- Behind a `main`, be it the first one or not, the first class of another title counts, unless one
has been found before. -/
theorem classAfterMain?_append_main (before : List Resource) (hm : m.IsClassTitled "main")
    (after : List Resource) :
    classAfterMain? (before ++ m :: after) =
      (classAfterMain? before).or (after.find? fun q => decide q.IsOtherClass) := by
  induction before with
  | nil => rw [List.nil_append, classAfterMain?_cons, if_pos hm]; rfl
  | cons q before ih =>
    rw [List.cons_append, classAfterMain?_cons, classAfterMain?_cons, ih]
    split
    · rw [List.find?_append, List.find?_cons_of_neg (by simpa using hm.not_isOtherClass)]
    · rfl

/-- A list of resources, cut at its first class `main` and at the first class of another title behind
that. -/
structure MainCut where
  before : List Resource
  main : Resource
  between : List Resource
  picked : Resource
  after : List Resource
  no_main_before : ∀ q ∈ before, ¬q.IsClassTitled "main"
  isMain : main.IsClassTitled "main"
  only_main_between : ∀ q ∈ between, q.isType classType = true → q.title = "main"
  picked_isClass : picked.isType classType = true
  picked_ne_main : picked.title ≠ "main"

namespace MainCut

def toList (c : MainCut) : List Resource :=
  c.before ++ c.main :: (c.between ++ c.picked :: c.after)

theorem classAfterMain?_toList (c : MainCut) : classAfterMain? c.toList = some c.picked := by
  have hbetween : ∀ q ∈ c.between, ¬decide q.IsOtherClass = true := by
    intro q hq hother
    have ⟨hclass, htitle⟩ := of_decide_eq_true hother
    exact htitle (c.only_main_between q hq hclass)
  have hpicked : decide c.picked.IsOtherClass = true :=
    decide_eq_true ⟨c.picked_isClass, c.picked_ne_main⟩
  rw [toList, classAfterMain?_append_of_no_main c.no_main_before, classAfterMain?_cons,
    if_pos c.isMain, List.find?_append, List.find?_eq_none.mpr hbetween, Option.none_or]
  exact List.find?_cons_of_pos hpicked

end MainCut

theorem exists_mainCut {picked : Resource} (h : classAfterMain? rs = some picked) :
    ∃ c : MainCut, c.toList = rs ∧ c.picked = picked := by
  induction rs with
  | nil => cases h
  | cons r rs ih =>
    rw [classAfterMain?_cons] at h
    split at h
    · next hr =>
      obtain ⟨hother, between, after, rfl, hbetween⟩ := List.find?_eq_some_iff_append.mp h
      obtain ⟨hclass, htitle⟩ := of_decide_eq_true hother
      have honly : ∀ q ∈ between, q.isType classType = true → q.title = "main" := by
        intro q hq hqclass
        by_contra hqtitle
        have hnot := hbetween q hq
        rw [decide_eq_true (show q.IsOtherClass from ⟨hqclass, hqtitle⟩)] at hnot
        cases hnot
      exact ⟨⟨[], r, between, picked, after, by simp, hr, honly, hclass, htitle⟩, rfl, rfl⟩
    · next hr =>
      obtain ⟨c, rfl, hpicked⟩ := ih h
      have hbefore : ∀ q ∈ r :: c.before, ¬q.IsClassTitled "main" :=
        List.forall_mem_cons.mpr ⟨hr, c.no_main_before⟩
      exact ⟨{ c with before := r :: c.before, no_main_before := hbefore }, rfl, hpicked⟩

theorem classAfterMain?_eq_none_iff (rs : List Resource) :
    classAfterMain? rs = none ↔ (∀ q ∈ rs, ¬q.IsClassTitled "main") ∨
      ∃ before m after, rs = before ++ m :: after ∧ (∀ q ∈ before, ¬q.IsClassTitled "main") ∧
        m.IsClassTitled "main" ∧ ∀ q ∈ after, q.isType classType = true → q.title = "main" := by
  constructor
  · intro hnone
    by_cases h : ∃ m ∈ rs, m.IsClassTitled "main"
    · obtain ⟨before, m, after, rfl, hm, hbefore⟩ := exists_first_titled h
      rw [classAfterMain?_append_of_no_main hbefore, classAfterMain?_cons, if_pos hm,
        List.find?_eq_none] at hnone
      refine .inr ⟨before, m, after, rfl, hbefore, hm, fun q hq hclass => ?_⟩
      by_contra htitle
      exact hnone q hq (decide_eq_true ⟨hclass, htitle⟩)
    · exact .inl fun q hq hmain => h ⟨q, hq, hmain⟩
  · rintro (h | ⟨before, m, after, rfl, hbefore, hm, hafter⟩)
    · have hall := classAfterMain?_append_of_no_main h []
      rwa [List.append_nil] at hall
    · rw [classAfterMain?_append_of_no_main hbefore, classAfterMain?_cons, if_pos hm,
        List.find?_eq_none]
      intro q hq hother
      have ⟨hclass, htitle⟩ := of_decide_eq_true hother
      exact htitle (hafter q hq hclass)

/-- One change to a list that has no part in which class is inferred: another kind of resource anywhere,
anything but `main` before the first `main`, one more `main` behind a first one, and whatever stands
behind the class that is picked. -/
inductive Overlooked : List Resource → List Resource → Prop where
  | otherType {r : Resource} (before after : List Resource) (h : r.isType classType = false) :
    Overlooked (before ++ after) (before ++ r :: after)
  | beforeMain {r : Resource} {before : List Resource} (after : List Resource)
      (hbefore : ∀ q ∈ before, ¬q.IsClassTitled "main") (h : ¬r.IsClassTitled "main") :
    Overlooked (before ++ after) (before ++ r :: after)
  | mainAgain {m r : Resource} (before between after : List Resource)
      (hm : m.IsClassTitled "main") (h : r.IsClassTitled "main") :
    Overlooked (before ++ m :: (between ++ after)) (before ++ m :: (between ++ r :: after))
  | behindPicked (c : MainCut) (after : List Resource) :
    Overlooked c.toList { c with after := after }.toList

theorem Overlooked.classAfterMain?_eq {rs rs' : List Resource} (h : Overlooked rs rs') :
    classAfterMain? rs = classAfterMain? rs' := by
  cases h with
  | otherType before after h =>
    rw [classAfterMain?, classAfterMain?, List.filter_append, List.filter_append,
      List.filter_cons_of_neg (by simp [h])]
  | beforeMain after hbefore h =>
    rw [classAfterMain?_append_of_no_main hbefore, classAfterMain?_append_of_no_main hbefore,
      classAfterMain?_cons, if_neg h]
  | mainAgain before between after hm h =>
    rw [classAfterMain?_append_main before hm, classAfterMain?_append_main before hm,
      List.find?_append, List.find?_append,
      List.find?_cons_of_neg (by simpa using h.not_isOtherClass)]
  | behindPicked c after => rw [c.classAfterMain?_toList, MainCut.classAfterMain?_toList]

theorem classAfterMain?_of_overlooked {rs rs' : List Resource}
    (h : Relation.EqvGen Overlooked rs rs') : classAfterMain? rs = classAfterMain? rs' := by
  induction h with
  | rel _ _ h => exact h.classAfterMain?_eq
  | refl _ => rfl
  | symm _ _ _ ih => exact ih.symm
  | trans _ _ _ _ _ ih ih' => exact ih.trans ih'

namespace ClassChoice

theorem resolve?_inferred_eq (rs : List Resource) :
    inferred.resolve? rs = (classAfterMain? rs).map fun r => Unicode.lowercase r.title := by
  rw [resolve?, titleAfterMain?_eq, Option.map_map]
  rfl

/-- A name is inferred just where a first `main` is followed, whatever else and whatever more of `main`
stands between, by a class of another title, and the name is that title in lower case. None is inferred
just where there is no `main`, or no other class behind the first one. Changes that the search overlooks
leave what is inferred as it is, however many are made or undone. -/
theorem resolve?_inferred (rs : List Resource) :
    (∀ name, inferred.resolve? rs = some name ↔
      ∃ c : MainCut, c.toList = rs ∧ name = Unicode.lowercase c.picked.title) ∧
    (inferred.resolve? rs = none ↔ (∀ q ∈ rs, ¬q.IsClassTitled "main") ∨
      ∃ before m after, rs = before ++ m :: after ∧ (∀ q ∈ before, ¬q.IsClassTitled "main") ∧
        m.IsClassTitled "main" ∧ ∀ q ∈ after, q.isType classType = true → q.title = "main") ∧
    ∀ rs', Relation.EqvGen Overlooked rs rs' → inferred.resolve? rs' = inferred.resolve? rs := by
  refine ⟨fun name => ⟨fun h => ?_, ?_⟩, ?_, fun rs' h => ?_⟩
  · rw [resolve?_inferred_eq] at h
    obtain ⟨picked, hpicked, rfl⟩ := Option.map_eq_some_iff.mp h
    obtain ⟨c, hc, rfl⟩ := exists_mainCut hpicked
    exact ⟨c, hc, rfl⟩
  · rintro ⟨c, rfl, rfl⟩
    rw [resolve?_inferred_eq, c.classAfterMain?_toList]
    rfl
  · rw [resolve?_inferred_eq, Option.map_eq_none_iff, classAfterMain?_eq_none_iff]
  · rw [resolve?_inferred_eq, resolve?_inferred_eq, classAfterMain?_of_overlooked h]

theorem resolve?_inferred_of_repeated_main :
    let main : Resource := ⟨"Class", "main", []⟩
    let settings : Resource := ⟨"Class", "Settings", []⟩
    let picked : Resource := ⟨"Class", "Ntp::Config", []⟩
    let stage : Resource := ⟨"Stage", "main", []⟩
    let rs := [settings, main, stage, main, picked, settings]
    inferred.resolve? rs = some "ntp::config" ∧
      inferred.resolve? [settings, main, main, picked] = inferred.resolve? rs := by
  intro main settings picked stage rs
  obtain ⟨hsome, -, hkept⟩ := resolve?_inferred rs
  let c : MainCut := ⟨[settings], main, [stage, main], picked, [settings], by decide, by decide,
    by decide, rfl, by decide⟩
  have hname : "ntp::config" = Unicode.lowercase c.picked.title := by
    rw [← String.toList_inj, Unicode.toList_lowercase_of_ascii (by decide)]
    decide
  -- The end of the list goes first, then the stage.
  have hend : Overlooked rs [settings, main, stage, main, picked] := .behindPicked c []
  have hstage : Overlooked [settings, main, main, picked] [settings, main, stage, main, picked] :=
    .otherType [settings, main] [main, picked] rfl
  exact ⟨(hsome _).mpr ⟨c, rfl, hname⟩,
    hkept _ (.trans _ _ _ (.rel _ _ hend) (.symm _ _ (.rel _ _ hstage)))⟩

end ClassChoice

end CatalogRspec
