import CatalogRspec.Proofs.Filter.Building

namespace CatalogRspec

namespace ExcludeRule

/-- A type that is named drops the resources of this type; a pattern between slashes drops those with
a type that it occurs in. -/
def Drops (entry : String) (r : Resource) : Prop :=
  ((∀ source, entry ≠ "/" ++ source ++ "/") ∧ r.type = entry) ∨
    ∃ source p, entry = "/" ++ source ++ "/" ∧ Pattern.parse source = .ok p ∧
      p.occursIn r.type = true

theorem delimited?_eq_none_iff (entry : String) :
    delimited? entry = none ↔ ∀ source, entry ≠ "/" ++ source ++ "/" := by
  simp only [Option.eq_none_iff_forall_ne_some, ne_eq, delimited?_eq_some_iff]

theorem parse_cases (entry : String) :
    (parse entry = .ok (.type entry) ∧ delimited? entry = none) ∨
    (∃ source p, parse entry = .ok (.pattern p) ∧ delimited? entry = some source ∧
      Pattern.parse source = .ok p) ∨
    ∃ source refusal, parse entry = .error ⟨entry, source, refusal⟩ ∧
      delimited? entry = some source ∧ Pattern.parse source = .error refusal := by
  unfold parse
  cases delimited? entry with
  | none => exact .inl ⟨rfl, rfl⟩
  | some source =>
    cases hp : Pattern.parse source with
    | ok p => exact .inr (.inl ⟨source, p, by simp only [hp], rfl, hp⟩)
    | error refusal => exact .inr (.inr ⟨source, refusal, by simp only [hp], rfl, hp⟩)

theorem parse_eq_error_iff_refused (entry : String) (e : BadPattern) :
    parse entry = .error e ↔ entry = e.entry ∧ e.entry = "/" ++ e.source ++ "/" ∧
      Pattern.parse e.source = .error e.refusal := by
  rw [← delimited?_eq_some_iff]
  constructor
  · intro herror
    rcases parse_cases entry with ⟨h, -⟩ | ⟨source, p, h, -⟩ | ⟨source, refusal, h, hd, hp⟩
    · cases herror.symm.trans h
    · cases herror.symm.trans h
    · obtain rfl := Except.error.inj (herror.symm.trans h)
      exact ⟨rfl, hd, hp⟩
  · rintro ⟨rfl, hd, hp⟩
    unfold parse
    simp only [hd, hp]

theorem hits_iff_drops {entry : String} {rule : ExcludeRule} (h : parse entry = .ok rule)
    (r : Resource) : rule.hits r = true ↔ Drops entry r := by
  unfold Drops
  simp only [← delimited?_eq_none_iff, ← delimited?_eq_some_iff]
  rcases parse_cases entry with ⟨h', hd⟩ | ⟨source, p, h', hd, hp⟩ | ⟨source, refusal, h', hd, hp⟩
  · obtain rfl := Except.ok.inj (h.symm.trans h')
    simp [hits, hd]
  · obtain rfl := Except.ok.inj (h.symm.trans h')
    simp [hits, hd, hp]
  · cases h.symm.trans h'

end ExcludeRule

/-- An entry names a resource if it can be read and gives its type and title. -/
def Reference.Names (entry : String) (r : Resource) : Prop :=
  ∃ f, parse? entry = some f ∧ r.type = f.type ∧ r.title = f.title

namespace Options

/-- What a filter keeps: the resources that are named, if any entry is there to name them, and else
those that no entry drops. -/
def Keeps (o : Options) (r : Resource) : Prop :=
  if o.onlyInclude = [] then ∀ entry ∈ o.excludes, ¬ExcludeRule.Drops entry r
  else ∃ entry ∈ o.onlyInclude, Reference.Names entry r

def excluding (o : Options) (entries : List String) : Options :=
  { o with excludes := entries, onlyInclude := [] }

def including (o : Options) (entries : List String) : Options := { o with onlyInclude := entries }

end Options

namespace Filter

theorem ofOptions_of_onlyInclude {o : Options} (h : o.onlyInclude ≠ []) :
    ofOptions o = .ok (.onlyInclude (o.onlyInclude.filterMap Reference.parse?)) := by
  unfold ofOptions
  rw [if_neg (by simpa using h)]

theorem ofOptions_of_excludes {o : Options} (h : o.onlyInclude = []) :
    ofOptions o = (o.excludes.mapM ExcludeRule.parse).map .exclude := by
  unfold ofOptions
  rw [h]
  rfl

theorem keeps_onlyInclude_iff (entries : List String) (r : Resource) :
    (onlyInclude (entries.filterMap Reference.parse?)).keeps r = true ↔
      ∃ entry ∈ entries, Reference.Names entry r := by
  simp only [keeps, List.any_eq_true, List.mem_filterMap, Reference.isOf, Bool.and_eq_true,
    beq_iff_eq, Reference.Names]
  constructor
  · rintro ⟨f, ⟨entry, hentry, hf⟩, hr⟩
    exact ⟨entry, hentry, f, hf, hr⟩
  · rintro ⟨entry, hentry, f, hf, hr⟩
    exact ⟨f, ⟨entry, hentry, hf⟩, hr⟩

theorem keeps_exclude_iff {entries : List String} {rules : List ExcludeRule}
    (h : entries.mapM ExcludeRule.parse = .ok rules) (r : Resource) :
    (exclude rules).keeps r = true ↔ ∀ entry ∈ entries, ¬ExcludeRule.Drops entry r := by
  -- There is a rule for every entry, since none was refused.
  have hparses : ∀ entry ∈ entries, ∃ rule, ExcludeRule.parse entry = .ok rule := by
    intro entry hentry
    cases hp : ExcludeRule.parse entry with
    | ok rule => exact ⟨rule, rfl⟩
    | error e =>
      obtain ⟨e', he'⟩ := (mapM_eq_error_iff _ _).mpr ⟨entry, hentry, e, hp⟩
      cases h.symm.trans he'
  simp only [keeps, Bool.not_eq_true', List.any_eq_false]
  constructor
  · intro hkept entry hentry hdrops
    obtain ⟨rule, hrule⟩ := hparses entry hentry
    exact hkept rule ((mem_of_mapM_eq_ok h rule).mpr ⟨entry, hentry, hrule⟩)
      ((ExcludeRule.hits_iff_drops hrule r).mpr hdrops)
  · intro hkept rule hmem hhits
    obtain ⟨entry, hentry, hrule⟩ := (mem_of_mapM_eq_ok h rule).mp hmem
    exact hkept entry hentry ((ExcludeRule.hits_iff_drops hrule r).mp hhits)

theorem keeps_iff {o : Options} {f : Filter} (h : ofOptions o = .ok f) (r : Resource) :
    f.keeps r = true ↔ o.Keeps r := by
  unfold Options.Keeps
  by_cases ho : o.onlyInclude = []
  · rw [ofOptions_of_excludes ho] at h
    obtain ⟨rules, hrules, rfl⟩ := Except.map_eq_ok_iff.mp h
    rw [if_pos ho]
    exact keeps_exclude_iff hrules r
  · rw [ofOptions_of_onlyInclude ho] at h
    obtain rfl := Except.ok.inj h
    rw [if_neg ho]
    exact keeps_onlyInclude_iff o.onlyInclude r

open Classical in
theorem apply_eq_filter {o : Options} {f : Filter} (h : ofOptions o = .ok f) (rs : List Resource) :
    f.apply rs = rs.filter (o.Keeps ·) :=
  List.filter_congr fun r _ => by rw [Bool.eq_iff_iff, keeps_iff h, decide_eq_true_iff]

theorem exists_ofOptions_excluding_iff (o : Options) (entries : List String) :
    (∃ f, ofOptions (o.excluding entries) = .ok f) ↔
      ∀ entry ∈ entries, ¬ExcludeRule.Invalid entry := by
  rw [exists_ofOptions_iff]
  simp [Options.HasInvalidPattern, Options.excluding]

theorem apply_congr {f g : Filter} (h : ∀ r, f.keeps r = true ↔ g.keeps r = true)
    (rs : List Resource) : f.apply rs = g.apply rs :=
  List.filter_congr fun r _ => Bool.eq_iff_iff.mpr (h r)

theorem apply_apply (f g : Filter) (rs : List Resource) :
    g.apply (f.apply rs) = rs.filter fun r => f.keeps r && g.keeps r := by
  simp only [apply, List.filter_filter, Bool.and_comm]

theorem apply_idempotent (f : Filter) (rs : List Resource) : f.apply (f.apply rs) = f.apply rs := by
  rw [apply_apply]
  simp [apply]

section Excluding

variable {o : Options} {a b : List String} {f fa fb : Filter}

theorem keeps_excluding_iff (h : ofOptions (o.excluding a) = .ok f) (r : Resource) :
    f.keeps r = true ↔ ∀ entry ∈ a, ¬ExcludeRule.Drops entry r := by
  rw [keeps_iff h]
  simp [Options.Keeps, Options.excluding]

theorem apply_excluding_congr (hset : ∀ entry, entry ∈ a ↔ entry ∈ b)
    (hfa : ofOptions (o.excluding a) = .ok fa) :
    ∃ fb, ofOptions (o.excluding b) = .ok fb ∧ ∀ rs, fb.apply rs = fa.apply rs := by
  -- Which error comes first depends on the order, but not whether there is one.
  have hvalid := (exists_ofOptions_excluding_iff o a).mp ⟨fa, hfa⟩
  obtain ⟨fb, hfb⟩ := (exists_ofOptions_excluding_iff o b).mpr fun entry hentry =>
    hvalid entry ((hset entry).mpr hentry)
  refine ⟨fb, hfb, apply_congr fun r => ?_⟩
  rw [keeps_excluding_iff hfa, keeps_excluding_iff hfb]
  simp only [hset]

theorem apply_excluding_append (hfa : ofOptions (o.excluding a) = .ok fa)
    (hfb : ofOptions (o.excluding b) = .ok fb) :
    ∃ f, ofOptions (o.excluding (a ++ b)) = .ok f ∧ ∀ rs, f.apply rs = fb.apply (fa.apply rs) := by
  have ha := (exists_ofOptions_excluding_iff o a).mp ⟨fa, hfa⟩
  have hb := (exists_ofOptions_excluding_iff o b).mp ⟨fb, hfb⟩
  obtain ⟨f, hf⟩ := (exists_ofOptions_excluding_iff o (a ++ b)).mpr
    (List.forall_mem_append.mpr ⟨ha, hb⟩)
  refine ⟨f, hf, fun rs => ?_⟩
  rw [apply_apply]
  refine List.filter_congr fun r _ => ?_
  rw [Bool.eq_iff_iff, Bool.and_eq_true, keeps_excluding_iff hf, keeps_excluding_iff hfa,
    keeps_excluding_iff hfb, List.forall_mem_append]

end Excluding

section Including

variable {o : Options} {a b : List String}

theorem keeps_including_iff {f : Filter} (ha : a ≠ []) (h : ofOptions (o.including a) = .ok f)
    (r : Resource) : f.keeps r = true ↔ ∃ entry ∈ a, Reference.Names entry r := by
  rw [keeps_iff h]
  simp [Options.Keeps, Options.including, ha]

theorem keeps_including_append {f fa fb : Filter} (ha : a ≠ []) (hb : b ≠ [])
    (hfa : ofOptions (o.including a) = .ok fa) (hfb : ofOptions (o.including b) = .ok fb)
    (hf : ofOptions (o.including (a ++ b)) = .ok f) (r : Resource) :
    f.keeps r = (fa.keeps r || fb.keeps r) := by
  have hab := List.append_ne_nil_of_left_ne_nil ha b
  rw [Bool.eq_iff_iff, Bool.or_eq_true, keeps_including_iff hab hf, keeps_including_iff ha hfa,
    keeps_including_iff hb hfb]
  simp only [List.mem_append, or_and_right, exists_or]

end Including

theorem ofOptions_eq_error_iff_first {o : Options} (ho : o.onlyInclude = []) (e : BadPattern) :
    ofOptions o = .error e ↔ ∃ before after, o.excludes = before ++ e.entry :: after ∧
      (∀ entry ∈ before, ¬ExcludeRule.Invalid entry) ∧ e.entry = "/" ++ e.source ++ "/" ∧
      Pattern.parse e.source = .error e.refusal := by
  have hvalid (entry : String) :
      (∃ rule, ExcludeRule.parse entry = .ok rule) ↔ ¬ExcludeRule.Invalid entry := by
    rw [← ExcludeRule.parse_eq_error_iff]
    cases ExcludeRule.parse entry <;> simp
  rw [ofOptions_of_excludes ho, Except.map_eq_error_iff, mapM_eq_error_iff_first]
  simp only [hvalid, ExcludeRule.parse_eq_error_iff_refused]
  constructor
  · rintro ⟨before, _, after, hentries, hbefore, rfl, he⟩
    exact ⟨before, after, hentries, hbefore, he⟩
  · rintro ⟨before, after, hentries, hbefore, he⟩
    exact ⟨before, _, after, hentries, hbefore, rfl, he⟩

open Classical in
/-- Entries that name resources win over all others, which then are not even read, and keep just what
they name. Without any, the first entry that is no pattern is an error, and else what no entry drops is
kept. What is kept stays in its order, however often it stands there, and a second pass changes nothing.
Entries that exclude act as a set, and lists of them one after the other as one; entries that name keep
what any of them names. -/
theorem apply_ofOptions (o : Options) (rs : List Resource) :
    (o.onlyInclude ≠ [] → ∃ f, ofOptions o = .ok f ∧
      f.apply rs = rs.filter (fun r => ∃ entry ∈ o.onlyInclude, Reference.Names entry r) ∧
      ((∀ entry ∈ o.onlyInclude, Reference.parse? entry = none) → f.apply rs = [])) ∧
    (o.onlyInclude = [] →
      (∀ e, ofOptions o = .error e ↔ ∃ before after, o.excludes = before ++ e.entry :: after ∧
        (∀ entry ∈ before, ¬ExcludeRule.Invalid entry) ∧ e.entry = "/" ++ e.source ++ "/" ∧
        Pattern.parse e.source = .error e.refusal) ∧
      ∀ f, ofOptions o = .ok f →
        f.apply rs = rs.filter fun r => ∀ entry ∈ o.excludes, ¬ExcludeRule.Drops entry r) ∧
    (∀ f : Filter, f.apply (f.apply rs) = f.apply rs) ∧
    (∀ a b fa fb, ofOptions (o.excluding a) = .ok fa → ofOptions (o.excluding b) = .ok fb →
      ∃ f, ofOptions (o.excluding (a ++ b)) = .ok f ∧
        f.apply rs = fb.apply (fa.apply rs) ∧ f.apply rs = fa.apply (fb.apply rs)) ∧
    (∀ a b fa, (∀ entry, entry ∈ a ↔ entry ∈ b) → ofOptions (o.excluding a) = .ok fa →
      ∃ fb, ofOptions (o.excluding b) = .ok fb ∧ fb.apply rs = fa.apply rs) ∧
    ∀ a b, a ≠ [] → b ≠ [] → ∃ fa fb f, ofOptions (o.including a) = .ok fa ∧
      ofOptions (o.including b) = .ok fb ∧ ofOptions (o.including (a ++ b)) = .ok f ∧
      ∀ r, f.keeps r = (fa.keeps r || fb.keeps r) := by
  -- What a filter keeps is known from the entries alone; every clause but the errors is read off that.
  have hkept {f : Filter} (hf : ofOptions o = .ok f) : f.apply rs = rs.filter (o.Keeps ·) :=
    apply_eq_filter hf rs
  have hincluding {entries : List String} (h : entries ≠ []) :
      ∃ f, ofOptions (o.including entries) = .ok f := ⟨_, ofOptions_of_onlyInclude h⟩
  refine ⟨fun ho => ?_, fun ho => ⟨ofOptions_eq_error_iff_first ho, fun f hf => ?_⟩,
    fun f => apply_idempotent f rs, fun a b fa fb hfa hfb => ?_, fun a b fa hset hfa => ?_,
    fun a b ha hb => ?_⟩
  · have hf := ofOptions_of_onlyInclude ho
    refine ⟨_, hf, ?_, fun hnone => ?_⟩
    · rw [hkept hf]
      simp only [Options.Keeps, if_neg ho]
    · rw [hkept hf, List.filter_eq_nil_iff]
      simp +contextual [Options.Keeps, ho, Reference.Names, hnone]
  · rw [hkept hf]
    simp only [Options.Keeps, if_pos ho]
  · obtain ⟨f, hf, happly⟩ := apply_excluding_append hfa hfb
    refine ⟨f, hf, happly rs, ?_⟩
    rw [happly, apply_apply, apply_apply]
    simp only [Bool.and_comm]
  · obtain ⟨fb, hfb, happly⟩ := apply_excluding_congr hset hfa
    exact ⟨fb, hfb, happly rs⟩
  · obtain ⟨fa, hfa⟩ := hincluding ha
    obtain ⟨fb, hfb⟩ := hincluding hb
    obtain ⟨f, hf⟩ := hincluding (List.append_ne_nil_of_left_ne_nil ha b)
    exact ⟨fa, fb, f, hfa, hfb, hf, keeps_including_append ha hb hfa hfb hf⟩

end Filter

end CatalogRspec
