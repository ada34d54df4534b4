import CatalogRspec.Proofs.Options.Merging
import Mathlib.Data.List.Induction
import Mathlib.Data.List.Nodup

namespace CatalogRspec.Options

inductive Edit where
  | exclude (entry : String)
  | allow (entry : String)
  | addOnlyInclude (reference : String)
deriving Repr, DecidableEq

namespace Edit

def apply (o : Options) : Edit → Options
  | exclude entry => o.exclude entry
  | allow entry => o.allow entry
  | addOnlyInclude reference => o.addOnlyInclude reference

/-- The call is to exclude this entry or to allow it. -/
def Names (e : Edit) (entry : String) : Prop := e = exclude entry ∨ e = allow entry

instance (e : Edit) (entry : String) : Decidable (e.Names entry) :=
  inferInstanceAs (Decidable (_ ∨ _))

def reference? : Edit → Option String
  | addOnlyInclude reference => some reference
  | _ => none

end Edit

def edited (o : Options) (es : List Edit) : Options := es.foldl Edit.apply o

def lastNaming? (es : List Edit) (entry : String) : Option Edit :=
  es.reverse.find? fun e => decide (e.Names entry)

/-- The entries that are not there when a call excludes them, and that no call behind it allows, in the
order of these calls. -/
def additions (o : Options) : List Edit → List String
  | [] => []
  | .exclude entry :: es =>
    if entry ∈ o.excludes ∨ .allow entry ∈ es then additions (o.exclude entry) es
    else entry :: additions (o.exclude entry) es
  | .allow entry :: es => additions (o.allow entry) es
  | .addOnlyInclude reference :: es => additions (o.addOnlyInclude reference) es

variable {o : Options} {e : Edit} {es : List Edit} {entry : String}

theorem mem_exclude_self (o : Options) (entry : String) : entry ∈ (o.exclude entry).excludes := by
  by_cases h : entry ∈ o.excludes
  · rwa [exclude_of_mem h]
  · simp [exclude_of_not_mem h]

theorem not_mem_allow_self (o : Options) (entry : String) : entry ∉ (o.allow entry).excludes := by
  simp [allow]

theorem edited_cons (o : Options) (e : Edit) (es : List Edit) :
    o.edited (e :: es) = (e.apply o).edited es := rfl

theorem edited_concat (o : Options) (es : List Edit) (e : Edit) :
    o.edited (es ++ [e]) = e.apply (o.edited es) := List.foldl_concat ..

section Step

theorem filter_excludes_apply {p : String → Bool} (h : ∀ x, p x = true → ¬e.Names x) :
    (e.apply o).excludes.filter p = o.excludes.filter p := by
  cases e with
  | exclude entry =>
    by_cases hmem : entry ∈ o.excludes
    · rw [Edit.apply, exclude_of_mem hmem]
    · have hnot : ¬p entry = true := fun hp => h entry hp (.inl rfl)
      rw [Edit.apply, exclude_of_not_mem hmem, List.filter_append, List.filter_cons_of_neg hnot,
        List.filter_nil, List.append_nil]
  | allow entry =>
    rw [Edit.apply, allow, List.filter_filter]
    refine List.filter_congr fun x _ => ?_
    have hne : p x = true → x ≠ entry := fun hp heq => h x hp (.inr (heq ▸ rfl))
    by_cases hp : p x = true <;> simp [hp, hne]
  | addOnlyInclude reference => rfl

theorem mem_excludes_apply (o : Options) (e : Edit) (entry : String) :
    entry ∈ (e.apply o).excludes ↔ e = .exclude entry ∨ ¬e.Names entry ∧ entry ∈ o.excludes := by
  by_cases hnames : e.Names entry
  · rcases hnames with rfl | rfl
    · simpa [Edit.apply] using mem_exclude_self o entry
    · simpa [Edit.apply, Edit.Names] using not_mem_allow_self o entry
  · have hkept : (e.apply o).excludes.filter (· == entry) = o.excludes.filter (· == entry) :=
      filter_excludes_apply fun x hx => by rwa [beq_iff_eq.mp hx]
    have hmem (xs : List String) : entry ∈ xs ↔ entry ∈ xs.filter (· == entry) := by simp
    have hne : e ≠ .exclude entry := fun h => hnames (.inl h)
    rw [hmem, hkept, ← hmem]
    simp [hnames, hne]

theorem nodup_excludes_apply (h : o.excludes.Nodup) : (e.apply o).excludes.Nodup := by
  cases e with
  | exclude entry =>
    by_cases hmem : entry ∈ o.excludes
    · rwa [Edit.apply, exclude_of_mem hmem]
    · rw [Edit.apply, exclude_of_not_mem hmem]
      simpa using h.concat hmem
  | allow entry => exact h.filter _
  | addOnlyInclude reference => exact h

end Step

section Run

theorem filter_excludes_edited {p : String → Bool} (h : ∀ e ∈ es, ∀ x, p x = true → ¬e.Names x) :
    (o.edited es).excludes.filter p = o.excludes.filter p := by
  induction es generalizing o with
  | nil => rfl
  | cons e es ih =>
    obtain ⟨he, hes⟩ := List.forall_mem_cons.mp h
    rw [edited_cons, ih hes, filter_excludes_apply he]

theorem nodup_excludes_edited (h : o.excludes.Nodup) (es : List Edit) :
    (o.edited es).excludes.Nodup := by
  induction es generalizing o with
  | nil => exact h
  | cons e es ih => exact ih (nodup_excludes_apply h)

theorem lastNaming?_concat (es : List Edit) (e : Edit) (entry : String) :
    lastNaming? (es ++ [e]) entry = if e.Names entry then some e else lastNaming? es entry := by
  by_cases h : e.Names entry <;> simp [lastNaming?, h]

theorem lastNaming?_eq_none_iff (es : List Edit) (entry : String) :
    lastNaming? es entry = none ↔ ∀ e ∈ es, ¬e.Names entry := by
  simp [lastNaming?]

/-- The last call that names an entry decides about it, and if there is none, so does the start. -/
theorem mem_excludes_edited (o : Options) (es : List Edit) (entry : String) :
    entry ∈ (o.edited es).excludes ↔ lastNaming? es entry = some (.exclude entry) ∨
      lastNaming? es entry = none ∧ entry ∈ o.excludes := by
  induction es using List.reverseRecOn with
  | nil => simp [edited, lastNaming?]
  | append_singleton es e ih =>
    rw [edited_concat, mem_excludes_apply, ih, lastNaming?_concat]
    by_cases h : e.Names entry
    · simp [h]
    · have hne : e ≠ .exclude entry := fun he => h (.inl he)
      simp [h, hne]

end Run

theorem edited_eq (o : Options) (es : List Edit) :
    o.edited es =
      { o with
        excludes := (o.edited es).excludes
        onlyInclude := o.onlyInclude ++ es.filterMap Edit.reference? } := by
  induction es generalizing o with
  | nil => simp [edited]
  | cons e es ih =>
    rw [edited_cons, ih]
    cases e with
    | exclude entry =>
      by_cases hmem : entry ∈ o.excludes
      · simp [Edit.apply, exclude_of_mem hmem, Edit.reference?, List.filterMap_cons]
      · simp [Edit.apply, exclude_of_not_mem hmem, Edit.reference?, List.filterMap_cons]
    | allow entry => simp [Edit.apply, allow, Edit.reference?, List.filterMap_cons]
    | addOnlyInclude reference => simp [Edit.apply, addOnlyInclude, Edit.reference?]

theorem filter_allow_cons (xs : List String) (entry : String) (es : List Edit) :
    (xs.filter (· != entry)).filter (.allow · ∉ es) = xs.filter (.allow · ∉ .allow entry :: es) := by
  rw [List.filter_filter]
  refine List.filter_congr fun x _ => Bool.eq_iff_iff.mpr ?_
  simp [and_comm]

/-- The entries that no call allows come first, and then what is added. -/
theorem excludes_edited (o : Options) (es : List Edit) :
    (o.edited es).excludes = o.excludes.filter (.allow · ∉ es) ++ o.additions es := by
  induction es generalizing o with
  | nil => simp [edited, additions]
  | cons e es ih =>
    rw [edited_cons, ih]
    cases e with
    | exclude entry =>
      have hsame : o.excludes.filter (.allow · ∉ .exclude entry :: es) =
          o.excludes.filter (.allow · ∉ es) := by simp
      rw [Edit.apply, additions, hsame]
      by_cases hmem : entry ∈ o.excludes
      · rw [exclude_of_mem hmem, if_pos (.inl hmem)]
      · by_cases hallowed : Edit.allow entry ∈ es
        · rw [if_pos (.inr hallowed)]
          simp [exclude_of_not_mem hmem, hallowed]
        · rw [if_neg (by simp [hmem, hallowed])]
          simp [exclude_of_not_mem hmem, hallowed]
    | allow entry => rw [Edit.apply, additions, ← filter_allow_cons, allow]
    | addOnlyInclude reference => simp [Edit.apply, addOnlyInclude, additions]

theorem forall_mem_edited_iff (h : entry ∈ o.excludes) (es : List Edit) :
    (∀ before, before <+: es → entry ∈ (o.edited before).excludes) ↔ .allow entry ∉ es := by
  constructor
  · intro hstays hallowed
    obtain ⟨before, after, rfl⟩ := List.append_of_mem hallowed
    have hmem := hstays (before ++ [.allow entry]) ⟨after, by simp⟩
    rw [edited_concat] at hmem
    exact not_mem_allow_self _ entry hmem
  · intro hallowed before hbefore
    rw [excludes_edited, List.mem_append, List.mem_filter]
    exact .inl ⟨h, by simpa using fun hmem => hallowed (hbefore.mem hmem)⟩

theorem allow_exclude_eq_iff (o : Options) (entry : String) :
    (o.exclude entry).allow entry = o ↔ entry ∉ o.excludes := by
  constructor
  · intro h
    rw [← h]
    exact not_mem_allow_self _ entry
  · intro h
    have hothers : o.excludes.filter (· != entry) = o.excludes :=
      List.filter_eq_self.mpr fun x hx => bne_iff_ne.mpr fun heq => h (heq ▸ hx)
    simp [exclude_of_not_mem h, allow, List.filter_append, hothers]

/-- After any series of calls an entry that some call names is excluded just if the last such call is to
exclude it, and what no call names stands as it stood. A list without repetition stays one, at every
point. The entries of the start that were there all the time come first, in their order, and behind them
those that were put in since, in the order of the calls that did it. References add up and the toggles
stay. So to allow what has just been excluded gives back the options just if it was not there before. -/
theorem edited_history (o : Options) (es : List Edit) :
    let after := o.edited es
    (∀ entry, (∃ e ∈ es, e.Names entry) →
      (entry ∈ after.excludes ↔ lastNaming? es entry = some (.exclude entry))) ∧
    after.excludes.filter (fun x => ∀ e ∈ es, ¬e.Names x) =
      o.excludes.filter (fun x => ∀ e ∈ es, ¬e.Names x) ∧
    (o.excludes.Nodup → ∀ before, before <+: es → (o.edited before).excludes.Nodup) ∧
    after.excludes = o.excludes.filter (.allow · ∉ es) ++ o.additions es ∧
    (∀ entry ∈ o.excludes,
      (∀ before, before <+: es → entry ∈ (o.edited before).excludes) ↔ .allow entry ∉ es) ∧
    after.onlyInclude = o.onlyInclude ++ es.filterMap Edit.reference? ∧
    after.md5sums = o.md5sums ∧ after.strictContent = o.strictContent ∧
    ∀ entry, (o.exclude entry).allow entry = o ↔ entry ∉ o.excludes := by
  intro after
  have hafter : after = _ := edited_eq o es
  refine ⟨fun entry hnamed => ?_, ?_, fun h before _ => nodup_excludes_edited h before,
    excludes_edited o es, fun entry h => forall_mem_edited_iff h es, ?_, ?_, ?_,
    allow_exclude_eq_iff o⟩
  · have hlast : lastNaming? es entry ≠ none := by
      rw [ne_eq, lastNaming?_eq_none_iff]
      simpa using hnamed
    rw [mem_excludes_edited]
    simp [hlast]
  · refine filter_excludes_edited fun e he x hx => ?_
    exact of_decide_eq_true hx e he
  · rw [hafter]
  · rw [hafter]
  · rw [hafter]

theorem edited_history_of_entries_put_back :
    let o : Options := { excludes := ["A", "B", "A"] }
    let es : List Edit := [.allow "A", .exclude "C", .exclude "A", .exclude "B", .allow "C",
      .addOnlyInclude "A[b]", .exclude "D", .exclude "C", .exclude "A"]
    (o.edited es).excludes = ["B", "A", "D", "C"] ∧ (o.edited es).onlyInclude = ["A[b]"] := by
  intro o es
  obtain ⟨-, -, -, hexcludes, -, hreferences, -⟩ := edited_history o es
  exact ⟨hexcludes.trans (by decide), hreferences⟩

end CatalogRspec.Options
